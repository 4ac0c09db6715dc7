import EpochVoting.Text.Digits

/-!
# TOML strings

A string stands between quotation marks and may have escapes, or between
apostrophes and is taken literally; three marks on either side let it span
lines.  The readers here begin after the opening marks and yield the text and
what follows the closing marks.  `write` chooses, for any text, the first of the
four spellings that shows the text without escapes.
-/

namespace EpochVoting
namespace Toml
namespace Text

/-- What a reader takes: the text it has read, and the characters that follow. -/
abbrev Taken := Option (List Char × List Char)

/-- The text with a character in front. -/
def Taken.after (c : Char) (taken : Taken) : Taken :=
  taken.map fun (text, rest) => (c :: text, rest)

/-- A space or a tab. -/
def isBlank (c : Char) : Bool :=
  c = ' ' || c = '\t'

/-- A character that may stand for itself: everything but control characters other
than the tab. -/
def isPlain (c : Char) : Bool :=
  c = '\t' || 0x20 ≤ c.toNat && c.toNat ≠ 0x7F

/-! ## Reading -/

/-- The character that a backslash and a letter or mark stand for. -/
def escape? : Char → Option Char
  | 'b' => some '\x08'
  | 't' => some '\t'
  | 'n' => some '\n'
  | 'f' => some '\x0c'
  | 'r' => some '\r'
  | '"' => some '"'
  | '\\' => some '\\'
  | _ => none

/-- The character whose number is given by hexadecimal digits. -/
def scalar? (digits : List Char) : Option Char := do
  let n ← Text.Digits.value? 16 digits
  if n.isValidChar then some (Char.ofNat n) else none

/-- Reads a string with escapes on one line. -/
def basic : List Char → Taken
  | [] => none
  | '"' :: rest => some ([], rest)
  | '\\' :: 'u' :: a :: b :: c :: d :: rest => do
    (basic rest).after (← scalar? [a, b, c, d])
  | '\\' :: 'U' :: a :: b :: c :: d :: e :: f :: g :: h :: rest => do
    (basic rest).after (← scalar? [a, b, c, d, e, f, g, h])
  | '\\' :: c :: rest => do (basic rest).after (← escape? c)
  | c :: rest => if isPlain c then (basic rest).after c else none

/-- Reads a literal string on one line. -/
def literal : List Char → Taken
  | [] => none
  | '\'' :: rest => some ([], rest)
  | c :: rest => if isPlain c then (literal rest).after c else none

/-- Where a reader is in a string of several lines. -/
inductive Place where
  /-- In the text. -/
  | text
  /-- After a backslash at the end of a line, before the line's end. -/
  | lineEnd
  /-- After such a line's end, before the text goes on. -/
  | lineStart

/-- Reads a string with escapes on several lines.  A backslash at the end of a line
takes away the line's end and all blanks and line ends after it.  Up to two
quotation marks may stand before the closing three. -/
def basicLines : Place → List Char → Taken
  | _, [] => none
  | .lineEnd, '\n' :: rest => basicLines .lineStart rest
  | .lineEnd, '\r' :: '\n' :: rest => basicLines .lineStart rest
  | .lineEnd, c :: rest => if isBlank c then basicLines .lineEnd rest else none
  | .lineStart, '\n' :: rest => basicLines .lineStart rest
  | .lineStart, ' ' :: rest => basicLines .lineStart rest
  | .lineStart, '\t' :: rest => basicLines .lineStart rest
  | .lineStart, '\r' :: '\n' :: rest => basicLines .lineStart rest
  | _, '"' :: '"' :: '"' :: '"' :: '"' :: rest => some (['"', '"'], rest)
  | _, '"' :: '"' :: '"' :: '"' :: rest => some (['"'], rest)
  | _, '"' :: '"' :: '"' :: rest => some ([], rest)
  | _, '\r' :: '\n' :: rest => (basicLines .text rest).after '\n'
  | _, '\n' :: rest => (basicLines .text rest).after '\n'
  | _, '\\' :: 'u' :: a :: b :: c :: d :: rest => do
    (basicLines .text rest).after (← scalar? [a, b, c, d])
  | _, '\\' :: 'U' :: a :: b :: c :: d :: e :: f :: g :: h :: rest => do
    (basicLines .text rest).after (← scalar? [a, b, c, d, e, f, g, h])
  | _, '\\' :: '\n' :: rest => basicLines .lineStart rest
  | _, '\\' :: '\r' :: '\n' :: rest => basicLines .lineStart rest
  | _, '\\' :: c :: rest =>
    if isBlank c then basicLines .lineEnd rest
    else do (basicLines .text rest).after (← escape? c)
  | _, c :: rest => if isPlain c then (basicLines .text rest).after c else none

/-- Reads a literal string on several lines.  Up to two apostrophes may stand before
the closing three. -/
def literalLines : List Char → Taken
  | [] => none
  | '\'' :: '\'' :: '\'' :: '\'' :: '\'' :: rest => some (['\'', '\''], rest)
  | '\'' :: '\'' :: '\'' :: '\'' :: rest => some (['\''], rest)
  | '\'' :: '\'' :: '\'' :: rest => some ([], rest)
  | '\r' :: '\n' :: rest => (literalLines rest).after '\n'
  | '\n' :: rest => (literalLines rest).after '\n'
  | c :: rest => if isPlain c then (literalLines rest).after c else none

/-- What is left without a line's end at the front. -/
def dropLineEnd : List Char → List Char
  | '\n' :: rest => rest
  | '\r' :: '\n' :: rest => rest
  | rest => rest

/-- Reads a string on one line, as keys are. -/
def oneLine : List Char → Taken
  | '"' :: rest => basic rest
  | '\'' :: rest => literal rest
  | _ => none

/-- Reads a string.  A line's end right after three opening marks is not part of
it. -/
def string : List Char → Taken
  | '"' :: '"' :: '"' :: rest => basicLines .text (dropLineEnd rest)
  | '\'' :: '\'' :: '\'' :: rest => literalLines (dropLineEnd rest)
  | rest => oneLine rest

/-! ## Writing -/

/-- Holds for characters that only an escape can show in a string of several
lines. -/
def isHidden (c : Char) : Bool :=
  c ≠ '\n' && !isPlain c

/-- The hexadecimal digit of a value, in upper case. -/
def hexDigit (value : Nat) : Char :=
  (Text.Hex.digit value).toUpper

/-- The escape of a character of the first 256. -/
def escape (c : Char) : List Char :=
  match c with
  | '\x08' => ['\\', 'b']
  | '\t' => ['\\', 't']
  | '\n' => ['\\', 'n']
  | '\x0c' => ['\\', 'f']
  | '\r' => ['\\', 'r']
  | '"' => ['\\', '"']
  | '\\' => ['\\', '\\']
  | _ => ['\\', 'u', '0', '0', hexDigit (c.toNat / 16), hexDigit (c.toNat % 16)]

/-- The text between the quotation marks.  Tabs, backslashes and hidden characters
are escaped; of quotation marks in a row, `room` are left as they are before one is
escaped.  The first number says how many more are left as they are. -/
def escaped (lines : Bool) (room : Nat) : Nat → List Char → List Char
  | _, [] => []
  | 0, '"' :: rest => escape '"' ++ escaped lines room room rest
  | left + 1, '"' :: rest => '"' :: escaped lines room left rest
  | _, c :: rest =>
    if c = '\t' || c = '\\' || isHidden c || c = '\n' && !lines then
      escape c ++ escaped lines room room rest
    else c :: escaped lines room room rest

/-- Holds if the mark never stands more than `room` times in a row. -/
def runsFit (mark : Char) (room : Nat) : Nat → List Char → Bool
  | _, [] => true
  | left, c :: rest =>
    if c = mark then
      match left with
      | 0 => false
      | left + 1 => runsFit mark room left rest
    else runsFit mark room room rest

/-- The written form of a text: quotation marks if nothing but a tab needs an
escape, else apostrophes if none is in the text, else three quotation marks, else
three apostrophes; each if the text, shown without escapes, fits between them.  If
none does, escapes are used.  A text of several lines starts on a line of its
own. -/
def write (text : String) : String :=
  let cs := text.toList
  let lines := cs.contains '\n'
  let hidden := cs.any isHidden
  let backslash := cs.contains '\\'
  let start := if lines then ['\n'] else []
  let quotes := ['"', '"', '"']
  let apostrophes := ['\'', '\'', '\'']
  let inQuotes := '"' :: escaped false 0 0 cs ++ ['"']
  let inThreeQuotes := quotes ++ start ++ escaped true 2 2 cs ++ quotes
  String.ofList <|
    if !hidden && !backslash && !lines && runsFit '"' 0 0 cs then inQuotes
    else if !hidden && !lines && runsFit '\'' 0 0 cs then '\'' :: cs ++ ['\'']
    else if !hidden && !backslash && runsFit '"' 2 2 cs then inThreeQuotes
    else if !hidden && runsFit '\'' 2 2 cs then apostrophes ++ start ++ cs ++ apostrophes
    else if lines then inThreeQuotes
    else inQuotes

end Text
end Toml
end EpochVoting
