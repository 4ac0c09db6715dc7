/-!
# Bytes

Byte strings are lists of bytes, ordered lexicographically.  Words are written
with their least significant byte first (`littleEndian`), in a fixed number of
bytes, and read back as the number with those base-256 digits.
-/

namespace EpochVoting

/-- A byte string. -/
abbrev Bytes := List UInt8

namespace Bytes

/-- The lowest `width` base-256 digits of a number, least significant first. -/
def littleEndian : (width : Nat) → Nat → Bytes
  | 0, _ => []
  | width + 1, n => UInt8.ofNat n :: littleEndian width (n / 256)

/-- The number with the given base-256 digits, least significant first. -/
def toNat : Bytes → Nat
  | [] => 0
  | b :: rest => b.toNat + 256 * toNat rest

/-- The UTF-8 bytes of a text. -/
def ofText (text : String) : Bytes :=
  text.toUTF8.data.toList

@[simp] theorem length_littleEndian (width n : Nat) :
    (littleEndian width n).length = width := by
  induction width generalizing n with
  | zero => rfl
  | succ width ih => simp [littleEndian, ih]

end Bytes
end EpochVoting
