import EpochVoting.Error
import EpochVoting.Table

/-!
# Codecs

A codec writes values as bytes and reads them back from the front of a byte
string, together with what follows.  Words have a fixed width and their least
significant byte first, a truth value is one byte, and the parts of a record
follow one another without marks.  A nested table is preceded by the number of its
records, in eight bytes.
-/

namespace EpochVoting

open Std

/-- A way to write values as bytes and to read them back. -/
structure Codec (α : Type) where
  /-- The written form of a value. -/
  write : α → Bytes
  /-- The value at the front of a byte string, and what follows it. -/
  read : Bytes → Except DecodeError (α × Bytes)

namespace Codec

variable {α β : Type}

/-- The first bytes of a byte string, and what follows them. -/
def takeBytes (count : Nat) (bytes : Bytes) : Except DecodeError (Bytes × Bytes) :=
  if count ≤ bytes.length then .ok (bytes.take count, bytes.drop count) else .error .endOfBytes

/-- The value that a byte string stands for; bytes after it are ignored. -/
def decode (c : Codec α) (bytes : Bytes) : Except DecodeError α :=
  (c.read bytes).map Prod.fst

/-- A codec for values that can be turned into others and back. -/
def transport (c : Codec α) (there : α → β) (back : β → α) : Codec β where
  write x := c.write (back x)
  read bytes := (c.read bytes).map fun (x, rest) => (there x, rest)

/-- One value after the other. -/
def pair (c : Codec α) (d : Codec β) : Codec (α × β) where
  write x := c.write x.1 ++ d.write x.2
  read bytes := do
    let (x, rest) ← c.read bytes
    let (y, rest) ← d.read rest
    return ((x, y), rest)

/-- Words of 32 bits. -/
def word32 : Codec UInt32 where
  write x := Bytes.littleEndian 4 x.toNat
  read bytes := do
    let (digits, rest) ← takeBytes 4 bytes
    return (UInt32.ofNat (Bytes.toNat digits), rest)

/-- Words of 64 bits. -/
def word64 : Codec UInt64 where
  write x := Bytes.littleEndian 8 x.toNat
  read bytes := do
    let (digits, rest) ← takeBytes 8 bytes
    return (UInt64.ofNat (Bytes.toNat digits), rest)

/-- Truth values: zero or one. -/
def bool : Codec Bool where
  write x := [if x then 1 else 0]
  read
    | [] => .error .endOfBytes
    | b :: rest =>
      if b = 0 then .ok (false, rest)
      else if b = 1 then .ok (true, rest)
      else .error (.invalidBool b)

/-- Addresses: their 32 bytes. -/
def address : Codec Address where
  write a := a.bytes
  read bytes :=
    if h : 32 ≤ bytes.length then
      .ok (⟨bytes.take 32, by rw [List.length_take]; omega⟩, bytes.drop 32)
    else .error .endOfBytes

/-- Times: their seconds. -/
def timestamp : Codec Timestamp :=
  word64.transport Timestamp.mk Timestamp.secs

/-- The values of both sides. -/
def perSide (c : Codec α) : Codec (PerSide α) :=
  (c.pair c).transport (fun (a, b) => ⟨a, b⟩) fun p => (p.a, p.b)

/-- As many values as given, one after the other. -/
def readMany (c : Codec α) : Nat → Bytes → Except DecodeError (List α × Bytes)
  | 0, bytes => .ok ([], bytes)
  | count + 1, bytes => do
    let (x, rest) ← c.read bytes
    let (xs, rest) ← readMany c count rest
    return (x :: xs, rest)

/-- A list of values behind its length. -/
def list (c : Codec α) : Codec (List α) where
  write xs := word64.write (UInt64.ofNat xs.length) ++ xs.flatMap c.write
  read bytes := do
    let (count, rest) ← word64.read bytes
    readMany c count.toNat rest

/-- The records of a table behind their number.  Of two records with the same key
the later one is kept. -/
def table {κ : Type} [Keyed α κ] [Ord κ] [TransOrd κ] [LawfulEqOrd κ] (c : Codec α) :
    Codec (Table α) :=
  c.list.transport Table.ofList Table.records

end Codec
end EpochVoting
