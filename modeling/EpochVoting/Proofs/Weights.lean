import EpochVoting.Proofs.Calls
import EpochVoting.Proofs.TableSum

/-!
# The weight book

A voter's recorded total is the sum of the voter's single weights, and the sequence
number grows with every change.  Parts of a power in proportion to the weights of one
voter add up to no more than that power.
-/

namespace EpochVoting
namespace WeightBook

variable {b b' : WeightBook} {voter : Address} {gauge : Gauge} {weight : UInt32}
  {change : VoteChange} {total seqno : UInt64}

/-- What a weight change writes. -/
def write (b : WeightBook) (voter gauge : Address) (weight : UInt32)
    (total seqno : UInt64) : WeightBook where
  books := b.books.insert { voter, totalWeight := total, weightChangeSeqno := seqno }
  weights := b.weights.insert { voter, gauge, weight }

/-- A weight change: the total moves by the difference of the weights, the sequence
number by one. -/
theorem write_of_setVote (h : b.setVote voter gauge weight = .ok (change, b')) :
    ∃ total seqno : UInt64, b' = b.write voter gauge.target weight total seqno ∧
      total.toNat + (b.weight voter gauge.target).toNat =
        (b.totalWeight voter).toNat + weight.toNat ∧
      seqno.toNat = (b.seqno voter).toNat + 1 := by
  unfold setVote at h
  simp only [bind_eq_ok_iff, demand_eq_ok_iff, Amount.sub?_eq_some_iff,
    Amount.add?_eq_some_iff, pure_eq_ok_iff, Prod.mk.injEq, UInt32.toNat_toUInt64] at h
  obtain ⟨_, -, others, hothers, total, htotal, seqno, hseqno, -, rfl⟩ := h
  refine ⟨total, seqno, rfl, ?_, hseqno⟩
  omega

/-! ## Lookups after a change -/

theorem weight_write (v g : Address) (target : Address) :
    (b.write voter target weight total seqno).weight v g =
      if voter = v ∧ target = g then weight else b.weight v g := by
  unfold WeightBook.weight write
  rw [Table.find?_insert_ite]
  simp only [Keyed.key, Prod.mk.injEq]
  split <;> rfl

theorem totalWeight_write (v target : Address) :
    (b.write voter target weight total seqno).totalWeight v =
      if voter = v then total else b.totalWeight v := by
  unfold totalWeight write
  rw [Table.find?_insert_ite]
  simp only [Keyed.key]
  split <;> rfl

theorem seqno_write (v target : Address) :
    (b.write voter target weight total seqno).seqno v =
      if voter = v then seqno else b.seqno v := by
  unfold WeightBook.seqno write
  rw [Table.find?_insert_ite]
  simp only [Keyed.key]
  split <;> rfl

theorem totalWeight_of_mem {w : VoterBook} (h : w ∈ b.books.records) :
    b.totalWeight w.voter = w.totalWeight := by
  unfold totalWeight
  rw [show b.books.find? w.voter = some w from Table.find?_key_of_mem h]
  rfl

theorem summedWeight_eq_total (b : WeightBook) (v : Address) :
    b.summedWeight v = b.weights.total fun w => if w.voter = v then w.weight.toNat else 0 := by
  refine (Table.sum_filter b.weights (fun w => w.voter == v) fun w => w.weight.toNat).trans ?_
  simp only [beq_iff_eq]

theorem summedWeight_write (v target : Address) :
    (b.write voter target weight total seqno).summedWeight v +
        (if voter = v then (b.weight voter target).toNat else 0) =
      b.summedWeight v + if voter = v then weight.toNat else 0 := by
  rw [summedWeight_eq_total, summedWeight_eq_total]
  have hsum := Table.total_insert b.weights ⟨voter, target, weight⟩ fun w =>
    if w.voter = v then w.weight.toNat else 0
  -- A weight that was never set counts as zero.
  have hprevious : (b.weights.find? (voter, target)).elim 0
      (fun w => if w.voter = v then w.weight.toNat else 0) =
      if voter = v then (b.weight voter target).toNat else 0 := by
    unfold WeightBook.weight
    cases hw : b.weights.find? (voter, target) with
    | none => exact (ite_self 0).symm
    | some w =>
      have hvoter : w.voter = voter := (Prod.mk.inj (Table.key_of_find? hw)).1
      change (if w.voter = v then _ else _) = _
      rw [hvoter]
      rfl
  rw [← hprevious]
  exact hsum

/-! ## Totals are sums -/

/-- Every voter's total weight is the sum of the voter's weights. -/
def Balanced (b : WeightBook) : Prop :=
  ∀ voter, b.summedWeight voter = (b.totalWeight voter).toNat

theorem balanced_empty : empty.Balanced :=
  fun _ => rfl

theorem Balanced.setVote (h : b.Balanced)
    (hcall : b.setVote voter gauge weight = .ok (change, b')) : b'.Balanced := by
  obtain ⟨total, seqno, rfl, htotal, -⟩ := write_of_setVote hcall
  intro v
  have hold := h v
  have hsum : (b.write voter gauge.target weight total seqno).summedWeight v + _ = _ :=
    summedWeight_write v gauge.target
  rw [totalWeight_write]
  by_cases hv : voter = v
  · subst hv
    simp only [if_true] at hsum ⊢
    omega
  · simp only [hv, if_false] at hsum ⊢
    omega

/-- Parts of a power in proportion to the voter's weights stay within that power. -/
theorem Balanced.shares_le (h : b.Balanced) (voter : Address) (power : Nat) :
    (b.weights.total fun w =>
      if w.voter = voter then power * w.weight.toNat / (b.totalWeight voter).toNat else 0) ≤
      power := by
  have hparts : (b.weights.records.map fun w : GaugeWeight =>
      if w.voter = voter then w.weight.toNat else 0).sum ≤ (b.totalWeight voter).toNat := by
    rw [← h voter, summedWeight_eq_total]
    exact Nat.le_refl _
  have hshares := Table.sum_div_le b.weights.records _ power _ hparts
  refine Nat.le_trans (Table.total_mono fun w _ => ?_) hshares
  by_cases hw : w.voter = voter
  · rw [if_pos hw, if_pos hw]
  · rw [if_neg hw]
    exact Nat.zero_le _

end WeightBook
end EpochVoting
