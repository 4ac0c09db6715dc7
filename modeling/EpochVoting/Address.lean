import EpochVoting.Hash.Blake2b
import EpochVoting.Text.Hex

/-!
# Addresses

Everything the engine refers to by identity (voters, gauges, mints, vaults,
bribers) is an address of 32 bytes.  Addresses are ordered by their bytes and
written as 64 lower-case hexadecimal digits.  Accounts that belong to a record
are derived from seeds, so they need not be stored; every seed is preceded by
its length, which keeps the boundaries between seeds apart.
-/

namespace EpochVoting

open Std

/-- An account address of 32 bytes. -/
structure Address where
  bytes : Bytes
  length_bytes : bytes.length = 32
deriving DecidableEq

namespace Address

/-- Addresses are ordered by their bytes. -/
instance : Ord Address where
  compare := compareOn bytes

instance : TransOrd Address :=
  inferInstanceAs (TransCmp (compareOn bytes))

theorem ext_bytes {a b : Address} (h : a.bytes = b.bytes) : a = b := by
  cases a
  cases b
  cases h
  rfl

instance : LawfulEqOrd Address where
  compare_self := (inferInstance : ReflCmp (compareOn bytes)).compare_self
  eq_of_compare h := ext_bytes (LawfulEqOrd.eq_of_compare h)

/-- The address with the given bytes, if there are 32. -/
def ofBytes? (bytes : Bytes) : Option Address :=
  if h : bytes.length = 32 then some ⟨bytes, h⟩ else none

/-- The address whose bytes are all zero. -/
def zero : Address where
  bytes := List.replicate 32 0
  length_bytes := List.length_replicate

instance : Inhabited Address := ⟨zero⟩

/-- Whether all bytes are zero. -/
def isZero (a : Address) : Bool :=
  a == zero

/-- The 64 lower-case digits of an address. -/
def text (a : Address) : String :=
  Text.Hex.encode a.bytes

instance : ToString Address := ⟨text⟩

/-- A short form for logs: the first eight digits. -/
def shortText (a : Address) : String :=
  s!"Address({Text.Hex.encode (a.bytes.take 4)}…)"

/-- The address a text stands for: exactly 64 digits of either case. -/
def parse? (text : String) : Option Address :=
  (Text.Hex.decode? text).bind ofBytes?

/-- The tag that sets derived addresses apart from other uses of the hash. -/
def derivationTag : Bytes :=
  Bytes.ofText "gauge-address-v1"

/-- The byte string that a list of seeds is hashed as: the tag, then every seed
behind its length in four bytes. -/
def seedBytes (seeds : List Bytes) : Bytes :=
  derivationTag ++ seeds.flatMap fun seed => Bytes.littleEndian 4 seed.length ++ seed

/-- The address derived from a list of seeds. -/
def derive (seeds : List Bytes) : Address where
  bytes := Hash.Blake2b.digest (seedBytes seeds)
  length_bytes := Hash.Blake2b.length_digest _

end Address
end EpochVoting
