import EpochVoting.Bytes

/-!
# Hexadecimal text

Two digits stand for a byte, the high half first.  Writing uses lower case;
reading takes either case and nothing else.
-/

namespace EpochVoting
namespace Text
namespace Hex

/-- The lower-case digit of a value below sixteen. -/
def digit (value : Nat) : Char :=
  if value < 10 then Char.ofNat (48 + value) else Char.ofNat (87 + value)

/-- The value of a hexadecimal digit of either case. -/
def value? (c : Char) : Option Nat :=
  if '0' ≤ c ∧ c ≤ '9' then some (c.toNat - 48)
  else if 'a' ≤ c ∧ c ≤ 'f' then some (c.toNat - 87)
  else if 'A' ≤ c ∧ c ≤ 'F' then some (c.toNat - 55)
  else none

/-- The digits of a byte string. -/
def digits (bytes : Bytes) : List Char :=
  bytes.flatMap fun b => [digit (b.toNat / 16), digit (b.toNat % 16)]

/-- The byte string that the digits stand for, if all are digits and their
number is even. -/
def bytes? : List Char → Option Bytes
  | [] => some []
  | [_] => none
  | high :: low :: rest => do
    let h ← value? high
    let l ← value? low
    let tail ← bytes? rest
    return UInt8.ofNat (16 * h + l) :: tail

/-- The lower-case text of a byte string. -/
def encode (bytes : Bytes) : String :=
  String.ofList (digits bytes)

/-- The byte string a text stands for. -/
def decode? (text : String) : Option Bytes :=
  bytes? text.toList

end Hex
end Text
end EpochVoting
