import EpochVoting.Escrow
import Mathlib.Data.Nat.ModEq

/-!
# The power of a lock

A lock that opens has the part of its amount which the time left is of the longest lock, at
most the whole amount, rounded down (`Escrow.powerOf`).  That part fits into 64 bits, so the
greatest amount never stands in for it (`Escrow.ofNat?_powerOf`).  It declines while time goes
by, from the whole amount to nothing.

Rounding makes it worth less to hold two locks than a single one that opens with them and holds
what they hold together, but by one unit at most (`Escrow.powerOf_add_bounds`).
-/

namespace EpochVoting

/-- Two locks that open when a third one does, and together hold what it holds. -/
structure Lock.SplitInto (whole first second : Lock) : Prop where
  amounts : first.amount.toNat + second.amount.toNat = whole.amount.toNat
  first_opens : first.unlockAt = whole.unlockAt
  second_opens : second.unlockAt = whole.unlockAt

namespace Escrow

variable {e : Escrow} {amount : Nat} {unlockAt : Option Timestamp} {opening t later : Timestamp}

/-- The seconds for which a lock is paid power: those left until it opens, at most those of the
longest lock. -/
def countedSecs (e : Escrow) (opening t : Timestamp) : Nat :=
  min (opening.secs.toNat - t.secs.toNat) e.maxLockSecs.toNat

/-- The power of an amount locked until the given time, if any, as a natural number. -/
def powerOf (e : Escrow) (amount : Nat) (unlockAt : Option Timestamp) (t : Timestamp) : Nat :=
  match unlockAt with
  | none => amount
  | some opening => amount * e.countedSecs opening t / e.maxLockSecs.toNat

/-! ## From the whole amount to nothing -/

theorem countedSecs_le_of_le (h : t.secs ≤ later.secs) :
    e.countedSecs opening later ≤ e.countedSecs opening t := by
  rw [UInt64.le_iff_toNat_le] at h
  unfold countedSecs
  omega

theorem powerOf_le_amount (e : Escrow) (amount : Nat) (unlockAt : Option Timestamp)
    (t : Timestamp) : e.powerOf amount unlockAt t ≤ amount := by
  cases unlockAt with
  | none => exact Nat.le_refl amount
  | some opening =>
    have hsecs : e.countedSecs opening t ≤ e.maxLockSecs.toNat := Nat.min_le_right ..
    calc amount * e.countedSecs opening t / e.maxLockSecs.toNat
        ≤ amount * e.maxLockSecs.toNat / e.maxLockSecs.toNat :=
          Nat.div_le_div_right (Nat.mul_le_mul_left amount hsecs)
      _ = amount := Nat.mul_div_cancel amount e.maxLockSecs_pos

/-- Power is not gained by waiting. -/
theorem powerOf_le_of_le (h : t.secs ≤ later.secs) :
    e.powerOf amount unlockAt later ≤ e.powerOf amount unlockAt t := by
  cases unlockAt with
  | none => exact Nat.le_refl amount
  | some opening =>
    exact Nat.div_le_div_right (Nat.mul_le_mul_left amount (countedSecs_le_of_le h))

theorem powerOf_of_open (h : opening.secs ≤ t.secs) : e.powerOf amount (some opening) t = 0 := by
  have hnone : e.countedSecs opening t = 0 := by
    rw [UInt64.le_iff_toNat_le] at h
    unfold countedSecs
    omega
  rw [powerOf, hnone, Nat.mul_zero, Nat.zero_div]

theorem powerOf_of_longest (h : t.secs.toNat + e.maxLockSecs.toNat ≤ opening.secs.toNat) :
    e.powerOf amount (some opening) t = amount := by
  have hall : e.countedSecs opening t = e.maxLockSecs.toNat := by
    unfold countedSecs
    omega
  rw [powerOf, hall, Nat.mul_div_cancel amount e.maxLockSecs_pos]

/-! ## Two locks instead of one -/

/-- Two parts of an amount have at most the power of the whole, and at most one unit less. -/
theorem powerOf_add_bounds (e : Escrow) (x y : Nat) (unlockAt : Option Timestamp)
    (t : Timestamp) :
    e.powerOf x unlockAt t + e.powerOf y unlockAt t ≤ e.powerOf (x + y) unlockAt t ∧
      e.powerOf (x + y) unlockAt t ≤ e.powerOf x unlockAt t + e.powerOf y unlockAt t + 1 := by
  cases unlockAt with
  | none => exact ⟨Nat.le_refl (x + y), Nat.le_succ (x + y)⟩
  | some opening =>
    -- The remainders of the parts make up less than two units.
    simp only [powerOf]
    rw [Nat.add_mul, Nat.add_div e.maxLockSecs_pos]
    split <;> omega

/-! ## The power in the escrow -/

/-- The power of an amount is an amount. -/
theorem ofNat?_powerOf (e : Escrow) (amount : UInt64) (unlockAt : Option Timestamp)
    (t : Timestamp) : ∃ power, Amount.ofNat? (e.powerOf amount.toNat unlockAt t) = some power := by
  have hle := e.powerOf_le_amount amount.toNat unlockAt t
  cases h : Amount.ofNat? (e.powerOf amount.toNat unlockAt t) with
  | some power => exact ⟨power, rfl⟩
  | none =>
    have hsize := Amount.ofNat?_eq_none_iff.mp h
    have hamount := amount.toNat_lt_size
    omega

/-- The power of a lock is the part of its amount, and not the greatest amount in its place. -/
theorem ofNat?_powerOf_lock (e : Escrow) (l : Lock) (t : Timestamp) :
    Amount.ofNat? (e.powerOf l.amount.toNat l.unlockAt t) = some (e.lockPower l t) := by
  obtain ⟨power, hpower⟩ := e.ofNat?_powerOf l.amount l.unlockAt t
  unfold lockPower
  cases hopen : l.unlockAt with
  | none => exact Amount.ofNat?_toNat l.amount
  | some opening =>
    rw [hopen, powerOf, countedSecs, ← Timestamp.toNat_secsUntil] at hpower
    simp only [powerOf, countedSecs, ← Timestamp.toNat_secsUntil, hpower, Option.getD_some]

theorem toNat_lockPower (e : Escrow) (l : Lock) (t : Timestamp) :
    (e.lockPower l t).toNat = e.powerOf l.amount.toNat l.unlockAt t :=
  Amount.ofNat?_eq_some_iff.mp (e.ofNat?_powerOf_lock l t)

theorem votingPower?_of_lock {voter : Address} {l : Lock} (h : e.lock? voter = some l)
    (t : Timestamp) : e.votingPower? voter t = some (e.lockPower l t) := by
  unfold votingPower?
  rw [h, Option.map_some]

/-- What the power of a lock is at every time. -/
structure PowerCurve (e : Escrow) (l : Lock) (power : Timestamp → UInt64) : Prop where
  /-- It is the exact part of the amount, which is never too large. -/
  uncapped : ∀ t, Amount.ofNat? (e.powerOf l.amount.toNat l.unlockAt t) = some (power t)
  declines : ∀ t later, t.secs ≤ later.secs → power later ≤ power t
  bounded : ∀ t, power t ≤ l.amount
  /-- A lock that never opens keeps its power. -/
  permanent : l.unlockAt = none → ∀ t, power t = l.amount
  /-- The power is whole as long as the time left is that of the longest lock. -/
  whole : ∀ opening t, l.unlockAt = some opening →
    t.secs.toNat + e.maxLockSecs.toNat ≤ opening.secs.toNat → power t = l.amount
  opened : ∀ opening t, l.unlockAt = some opening → opening.secs ≤ t.secs → power t = 0

theorem powerCurve (e : Escrow) (l : Lock) : e.PowerCurve l (e.lockPower l) where
  uncapped := e.ofNat?_powerOf_lock l
  declines t later h := by
    rw [UInt64.le_iff_toNat_le, toNat_lockPower, toNat_lockPower]
    exact powerOf_le_of_le h
  bounded t := by
    rw [UInt64.le_iff_toNat_le, toNat_lockPower]
    exact e.powerOf_le_amount l.amount.toNat l.unlockAt t
  permanent hopen t := by
    rw [← UInt64.toNat_inj, toNat_lockPower, hopen, powerOf]
  whole opening t hopen hleft := by
    rw [← UInt64.toNat_inj, toNat_lockPower, hopen, powerOf_of_longest hleft]
  opened opening t hopen hpast := by
    rw [← UInt64.toNat_inj, toNat_lockPower, hopen, powerOf_of_open hpast]
    rfl

/-- A lock of any amount has a power at every time, which declines from the whole amount to
nothing and is exact up to rounding.  Two voters with locks that open at the same time and
together hold the same amount never have more power than it, and at most one unit less. -/
theorem power_declines (e : Escrow) {voter : Address} {l : Lock}
    (hlock : e.lock? voter = some l) :
    ∃ power : Timestamp → UInt64,
      (∀ t, e.votingPower? voter t = some (power t)) ∧ e.PowerCurve l power ∧
      ∀ (parted : Escrow) (voter₁ voter₂ : Address) (l₁ l₂ : Lock),
        parted.maxLockSecs = e.maxLockSecs → parted.lock? voter₁ = some l₁ →
        parted.lock? voter₂ = some l₂ → l.SplitInto l₁ l₂ →
        ∀ t, ∃ power₁ power₂, parted.votingPower? voter₁ t = some power₁ ∧
          parted.votingPower? voter₂ t = some power₂ ∧
          power₁.toNat + power₂.toNat ≤ (power t).toNat ∧
          (power t).toNat ≤ power₁.toNat + power₂.toNat + 1 := by
  refine ⟨e.lockPower l, votingPower?_of_lock hlock, e.powerCurve l, ?_⟩
  intro parted voter₁ voter₂ l₁ l₂ hlongest hlock₁ hlock₂ hsplit t
  refine ⟨_, _, votingPower?_of_lock hlock₁ t, votingPower?_of_lock hlock₂ t, ?_⟩
  have hsame (amount : Nat) :
      parted.powerOf amount l.unlockAt t = e.powerOf amount l.unlockAt t := by
    unfold powerOf countedSecs
    rw [hlongest]
  rw [toNat_lockPower, toNat_lockPower, toNat_lockPower, hsplit.first_opens, hsplit.second_opens,
    hsame, hsame, ← hsplit.amounts]
  exact e.powerOf_add_bounds _ _ l.unlockAt t

end Escrow

namespace Sample

/-- A second voter. -/
def partner : Address :=
  ⟨List.replicate 32 1, List.length_replicate⟩

/-- An amount that a voter locks up to second one hundred. -/
def timed (voter : Address) (amount : UInt64) : Lock :=
  { voter, owner := voter, delegate := voter, amount, unlockAt := some ⟨100⟩ }

/-- Six units in one lock, where the longest lock takes a hundred seconds. -/
def together : Escrow :=
  (Escrow.create 100).setLock Address.zero 6 (some ⟨100⟩)

/-- The same units in two locks. -/
def apart : Escrow :=
  ((Escrow.create 100).setLock Address.zero 3 (some ⟨100⟩)).setLock partner 3 (some ⟨100⟩)

/-- At half the time, the two locks have a unit less than the single one. -/
theorem together_declines :
    ∃ power : Timestamp → UInt64,
      (∀ t, together.votingPower? Address.zero t = some (power t)) ∧
      together.PowerCurve (timed Address.zero 6) power ∧ power ⟨50⟩ = 3 ∧
      (∀ t, ∃ power₁ power₂, apart.votingPower? Address.zero t = some power₁ ∧
        apart.votingPower? partner t = some power₂ ∧
        power₁.toNat + power₂.toNat ≤ (power t).toNat ∧
        (power t).toNat ≤ power₁.toNat + power₂.toNat + 1) ∧
      apart.votingPower? Address.zero ⟨50⟩ = some 1 ∧
      apart.votingPower? partner ⟨50⟩ = some 1 := by
  have hlock : together.lock? Address.zero = some (timed Address.zero 6) := by decide
  obtain ⟨power, hpower, hcurve, hparted⟩ := Escrow.power_declines together hlock
  have hhalf : together.votingPower? Address.zero ⟨50⟩ = some 3 := by decide
  have hapart := hparted apart Address.zero partner (timed Address.zero 3) (timed partner 3) rfl
    (by decide) (by decide) ⟨rfl, rfl, rfl⟩
  exact ⟨power, hpower, hcurve, Option.some.inj ((hpower ⟨50⟩).symm.trans hhalf), hapart,
    by decide, by decide⟩

end Sample
end EpochVoting
