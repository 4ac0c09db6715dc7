import EpochVoting.Text.Hex

/-!
# Numbers in digits

Numbers are written in a base of at most sixteen, the most significant digit
first.
-/

namespace EpochVoting
namespace Text
namespace Digits

/-- Holds for the digits of a base. -/
def isDigit (base : Nat) (c : Char) : Bool :=
  match Hex.value? c with
  | some value => value < base
  | none => false

/-- The number that digits stand for; no digits stand for zero. -/
def value? (base : Nat) (digits : List Char) : Option Nat :=
  if digits.all (isDigit base) then
    some (digits.foldl (fun n c => base * n + (Hex.value? c).getD 0) 0)
  else none

/-- The decimal number a text stands for: one digit or more. -/
def decimal? (text : String) : Option Nat :=
  if text.isEmpty then none else value? 10 text.toList

end Digits
end Text
end EpochVoting
