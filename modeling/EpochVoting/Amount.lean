/-!
# Amounts

Token amounts, powers, counters and times are 64-bit words.  Every operation
that could leave the word answers with an option, and each is pinned down by one
statement about natural numbers: `add? a b` is the word whose value is the sum
of the two values, if there is one.  Proportional shares are taken exactly, in
natural numbers, and rounded down.
-/

namespace EpochVoting
namespace Amount

/-- The word with the given value, if 64 bits hold it. -/
def ofNat? (n : Nat) : Option UInt64 :=
  if n < UInt64.size then some (UInt64.ofNat n) else none

/-- The largest amount. -/
def greatest : UInt64 :=
  UInt64.ofNat (UInt64.size - 1)

/-- The sum of two amounts, if it is an amount. -/
def add? (a b : UInt64) : Option UInt64 :=
  ofNat? (a.toNat + b.toNat)

/-- The difference of two amounts, if the second does not exceed the first. -/
def sub? (a b : UInt64) : Option UInt64 :=
  if b.toNat ≤ a.toNat then ofNat? (a.toNat - b.toNat) else none

/-- The product of two amounts, if it is an amount. -/
def mul? (a b : UInt64) : Option UInt64 :=
  ofNat? (a.toNat * b.toNat)

/-- The sum of two amounts, or the greatest amount if the sum is larger. -/
def addCapped (a b : UInt64) : UInt64 :=
  (add? a b).getD greatest

/-- The difference of two amounts, or zero if the second is larger. -/
def subFloored (a b : UInt64) : UInt64 :=
  (sub? a b).getD 0

/-- `value * numerator / denominator`, rounded down.  The product is exact, so
only a quotient of more than 64 bits is refused.  A zero denominator yields
zero: there is nothing to proportion against. -/
def share? (value numerator denominator : UInt64) : Option UInt64 :=
  ofNat? (value.toNat * numerator.toNat / denominator.toNat)

/-- The sum of a list of amounts, if it is an amount. -/
def sum? : List UInt64 → Option UInt64
  | [] => some 0
  | a :: rest => (sum? rest).bind (add? a)

theorem ofNat?_eq_some_iff {n : Nat} {c : UInt64} :
    ofNat? n = some c ↔ c.toNat = n := by
  unfold ofNat?
  constructor
  · intro h
    split at h
    · next hn =>
      cases h
      exact UInt64.toNat_ofNat_of_lt' hn
    · cases h
  · intro h
    have hn : n < UInt64.size := h ▸ c.toNat_lt_size
    rw [if_pos hn, ← h, UInt64.ofNat_toNat]

theorem ofNat?_eq_none_iff {n : Nat} : ofNat? n = none ↔ UInt64.size ≤ n := by
  unfold ofNat?
  split <;> simp <;> omega

theorem ofNat?_toNat (a : UInt64) : ofNat? a.toNat = some a :=
  ofNat?_eq_some_iff.mpr rfl

@[simp] theorem toNat_greatest : greatest.toNat = UInt64.size - 1 := by
  decide

theorem add?_eq_some_iff {a b c : UInt64} :
    add? a b = some c ↔ c.toNat = a.toNat + b.toNat :=
  ofNat?_eq_some_iff

theorem add?_eq_none_iff {a b : UInt64} :
    add? a b = none ↔ UInt64.size ≤ a.toNat + b.toNat :=
  ofNat?_eq_none_iff

theorem sub?_eq_some_iff {a b c : UInt64} :
    sub? a b = some c ↔ a.toNat = c.toNat + b.toNat := by
  unfold sub?
  split
  · rw [ofNat?_eq_some_iff]
    omega
  · simp only [reduceCtorEq, false_iff]
    omega

theorem sub?_eq_none_iff {a b : UInt64} :
    sub? a b = none ↔ a.toNat < b.toNat := by
  unfold sub?
  split
  · rw [ofNat?_eq_none_iff]
    have := a.toNat_lt_size
    omega
  · simp only [true_iff]
    omega

/-- The floored difference is that of the values. -/
theorem toNat_subFloored (a b : UInt64) : (subFloored a b).toNat = a.toNat - b.toNat := by
  unfold subFloored
  cases h : sub? a b with
  | some c =>
    have hsum := sub?_eq_some_iff.mp h
    rw [Option.getD_some]
    omega
  | none =>
    have hlt := sub?_eq_none_iff.mp h
    have hzero : (0 : UInt64).toNat = 0 := rfl
    rw [Option.getD_none, hzero]
    omega

theorem mul?_eq_some_iff {a b c : UInt64} :
    mul? a b = some c ↔ c.toNat = a.toNat * b.toNat :=
  ofNat?_eq_some_iff

theorem share?_eq_some_iff {value numerator denominator c : UInt64} :
    share? value numerator denominator = some c ↔
      c.toNat = value.toNat * numerator.toNat / denominator.toNat :=
  ofNat?_eq_some_iff

end Amount
end EpochVoting
