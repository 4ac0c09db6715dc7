import EpochVoting.Toml.Text
import EpochVoting.Toml.Value

/-!
# TOML words

Every value that has no marks around it is a word: a run of letters, digits and
the characters `+ - . _ :`.  Words are booleans, integers, floats, dates and times
of day.  A date and a time may also be two words with a space between them.
-/

namespace EpochVoting
namespace Toml
namespace Scalar

open EpochVoting.Text

/-- A character of words. -/
def isWordChar (c : Char) : Bool :=
  c.isAlphanum || c = '+' || c = '-' || c = '.' || c = '_' || c = ':'

/-! ## Numbers -/

/-- The digits of a number of one digit or more, in which underscores may stand
between two digits. -/
def ungroup? (base : Nat) : List Char → Option (List Char)
  | [] => none
  | [c] => if Digits.isDigit base c then some [c] else none
  | c :: '_' :: rest =>
    if Digits.isDigit base c then (ungroup? base rest).map (c :: ·) else none
  | c :: rest => if Digits.isDigit base c then (ungroup? base rest).map (c :: ·) else none

/-- The number without its sign, and whether the sign is a minus. -/
def dropSign : List Char → Bool × List Char
  | '+' :: rest => (false, rest)
  | '-' :: rest => (true, rest)
  | rest => (false, rest)

/-- The digits before the point of a decimal number: a zero is the only digit or
not the first. -/
def whole? (word : List Char) : Option (List Char) := do
  let digits ← ungroup? 10 word
  if digits.head? = some '0' ∧ digits.length ≠ 1 then none else some digits

/-- The number that a word stands for as an integer.  Only decimal numbers have a
sign. -/
def number? (word : List Char) : Option Int := do
  match word with
  | '0' :: 'x' :: rest => return Int.ofNat (← Digits.value? 16 (← ungroup? 16 rest))
  | '0' :: 'o' :: rest => return Int.ofNat (← Digits.value? 8 (← ungroup? 8 rest))
  | '0' :: 'b' :: rest => return Int.ofNat (← Digits.value? 2 (← ungroup? 2 rest))
  | _ =>
    let (negative, rest) := dropSign word
    let n ← Digits.value? 10 (← whole? rest)
    return if negative then - Int.ofNat n else Int.ofNat n

/-- The integer that a word stands for: a number of 64 bits with a sign. -/
def integer? (word : List Char) : Option Int := do
  let n ← number? word
  let bound := Int.ofNat (Nat.pow 2 63)
  if -bound ≤ n ∧ n < bound then some n else none

/-- The least number that rounds to no finite float of 64 bits. -/
def floatLimit : Nat :=
  Nat.pow 2 1024 - Nat.pow 2 970

/-- Holds if the number with the given digits and the given power of ten is below
the limit of floats.  The power is used as a factor only when the number of digits
does not decide. -/
def fitsFloat (digits : List Char) (exponent : Int) : Bool :=
  let n := (Digits.value? 10 digits).getD 0
  let digits := Int.ofNat (toString n).length
  if n = 0 ∨ digits + exponent ≤ 308 then true
  else if 309 < digits + exponent then false
  else if 0 ≤ exponent then n * Nat.pow 10 exponent.toNat < floatLimit
  else n < floatLimit * Nat.pow 10 (-exponent).toNat

/-- The exponent of a float: a sign or none, and digits. -/
def exponent? (word : List Char) : Option Int := do
  let (negative, rest) := dropSign word
  let n ← Digits.value? 10 (← ungroup? 10 rest)
  return if negative then - Int.ofNat n else Int.ofNat n

/-- Holds if the word is a float: a decimal number with a fraction, an exponent or
both, or an infinity or no number.  Negative numbers of any size will do, positive
ones must round to a finite float. -/
def isFloat (word : List Char) : Bool :=
  let (negative, rest) := dropSign word
  let isMark := fun c => c = '.' || c = 'e' || c = 'E'
  let fits := do
    let before ← whole? (rest.takeWhile (!isMark ·))
    match rest.dropWhile (!isMark ·) with
    | [] => none
    | '.' :: rest =>
      let fraction ← ungroup? 10 (rest.takeWhile (!isMark ·))
      match rest.dropWhile (!isMark ·) with
      | [] => some (fitsFloat (before ++ fraction) (-Int.ofNat fraction.length))
      | '.' :: _ => none
      | _ :: rest =>
        let exponent ← exponent? rest
        some (fitsFloat (before ++ fraction) (exponent - Int.ofNat fraction.length))
    | _ :: rest => some (fitsFloat before (← exponent? rest))
  rest = ['i', 'n', 'f'] || rest = ['n', 'a', 'n'] ||
    match fits with
    | some fits => negative || fits
    | none => false

/-! ## Dates and times -/

/-- The number of days of a month. -/
def daysOf (year month : Nat) : Nat :=
  if month = 2 then
    if year % 4 = 0 ∧ (year % 100 ≠ 0 ∨ year % 400 = 0) then 29 else 28
  else if month = 4 ∨ month = 6 ∨ month = 9 ∨ month = 11 then 30
  else 31

/-- What follows a date in a word. -/
def afterDate? : List Char → Option (List Char)
  | y₁ :: y₂ :: y₃ :: y₄ :: '-' :: m₁ :: m₂ :: '-' :: d₁ :: d₂ :: rest => do
    let year ← Digits.value? 10 [y₁, y₂, y₃, y₄]
    let month ← Digits.value? 10 [m₁, m₂]
    let day ← Digits.value? 10 [d₁, d₂]
    if 1 ≤ month ∧ month ≤ 12 ∧ 1 ≤ day ∧ day ≤ daysOf year month then some rest else none
  | _ => none

/-- What follows a time of day in a word. -/
def afterTime? : List Char → Option (List Char)
  | h₁ :: h₂ :: ':' :: m₁ :: m₂ :: ':' :: s₁ :: s₂ :: rest => do
    let hour ← Digits.value? 10 [h₁, h₂]
    let minute ← Digits.value? 10 [m₁, m₂]
    let second ← Digits.value? 10 [s₁, s₂]
    if hour ≤ 23 ∧ minute ≤ 59 ∧ second ≤ 60 then
      match rest with
      | '.' :: c :: rest =>
        if c.isDigit then some (rest.dropWhile Char.isDigit) else none
      | rest => some rest
    else none
  | _ => none

/-- Holds for nothing and for an offset from universal time. -/
def isOffset : List Char → Bool
  | [] => true
  | ['Z'] => true
  | ['z'] => true
  | [sign, h₁, h₂, ':', m₁, m₂] =>
    match Digits.value? 10 [h₁, h₂], Digits.value? 10 [m₁, m₂] with
    | some hour, some minute => (sign = '+' || sign = '-') && hour ≤ 23 && minute ≤ 59
    | _, _ => false
  | _ => false

/-- Holds if the word is a date. -/
def isDate (word : List Char) : Bool :=
  afterDate? word = some []

/-- Holds if the word is a time of day, with an offset or without. -/
def isZonedTime (word : List Char) : Bool :=
  match afterTime? word with
  | some rest => isOffset rest
  | none => false

/-- Holds if the word is a date, a time of day, or both joined by a letter. -/
def isDateTime (word : List Char) : Bool :=
  afterTime? word = some [] ||
    match afterDate? word with
    | some [] => true
    | some (c :: rest) => (c = 'T' || c = 't') && isZonedTime rest
    | none => false

/-! ## Words -/

/-- The value that a word stands for. -/
def ofWord? (word : List Char) : Option Value :=
  if word = ['t', 'r', 'u', 'e'] then some (.boolean true)
  else if word = ['f', 'a', 'l', 's', 'e'] then some (.boolean false)
  else if isDateTime word then some (.dateTime (String.ofList word))
  else if isFloat word then some (.float (String.ofList word))
  else (integer? word).map .integer

/-- Reads a word, or two that are a date and a time. -/
def read (text : List Char) : Option (Value × List Char) := do
  let word := text.takeWhile isWordChar
  let rest := text.dropWhile isWordChar
  let value ← ofWord? word
  match rest with
  | ' ' :: more =>
    let time := more.takeWhile isWordChar
    if isDate word && isZonedTime time then
      return (.dateTime (String.ofList (word ++ ' ' :: time)), more.dropWhile isWordChar)
    return (value, rest)
  | _ => return (value, rest)

end Scalar
end Toml
end EpochVoting
