import EpochVoting.Amount

/-!
# Time and epochs

A timestamp counts seconds.  The engine reads no clock: whoever calls it says
what time it is.  Epochs are numbered from one.
-/

namespace EpochVoting

/-- A point in time, in seconds. -/
structure Timestamp where
  secs : UInt64
deriving DecidableEq

namespace Timestamp

/-- Time zero. -/
def zero : Timestamp := ⟨0⟩

instance : Inhabited Timestamp := ⟨zero⟩

instance : Ord Timestamp where
  compare := compareOn secs

/-- The written form: the seconds and an `s`. -/
def text (t : Timestamp) : String :=
  s!"{t.secs}s"

instance : ToString Timestamp := ⟨text⟩

/-- The time a number of seconds later, if it can be counted. -/
def add? (t : Timestamp) (secs : UInt64) : Option Timestamp :=
  (Amount.add? t.secs secs).map Timestamp.mk

/-- The seconds from a time until a later one; zero if that one is not later. -/
def secsUntil (t later : Timestamp) : UInt64 :=
  Amount.subFloored later.secs t.secs

theorem toNat_secsUntil (t later : Timestamp) :
    (t.secsUntil later).toNat = later.secs.toNat - t.secs.toNat :=
  Amount.toNat_subFloored later.secs t.secs

end Timestamp

/-- The number of a voting epoch. -/
abbrev Epoch := UInt32

namespace Epoch

/-- The epoch a new factory is in. -/
def first : Epoch := 1

/-- The epoch after the given one, if it can be numbered. -/
def next? (epoch : Epoch) : Option Epoch :=
  if epoch.toNat + 1 < UInt32.size then some (epoch + 1) else none

/-- The number of epochs from one epoch up to another; zero if that one is not
later. -/
def countUntil (start stop : Epoch) : UInt32 :=
  if start ≤ stop then stop - start else 0

theorem next?_eq_some_iff {epoch next : Epoch} :
    next? epoch = some next ↔ next.toNat = epoch.toNat + 1 := by
  unfold next?
  have hn := next.toNat_lt_size
  have hsize : UInt32.size = 4294967296 := rfl
  split
  · rw [Option.some.injEq, ← UInt32.toNat_inj, UInt32.toNat_add]
    have h1 : (1 : UInt32).toNat = 1 := rfl
    omega
  · simp only [reduceCtorEq, false_iff]
    omega

theorem toNat_countUntil (start stop : Epoch) :
    (countUntil start stop).toNat = stop.toNat - start.toNat := by
  unfold countUntil
  split
  · next h => exact UInt32.toNat_sub_of_le _ _ h
  · next h =>
    rw [UInt32.le_iff_toNat_le] at h
    have h0 : (0 : UInt32).toNat = 0 := rfl
    omega

end Epoch
end EpochVoting
