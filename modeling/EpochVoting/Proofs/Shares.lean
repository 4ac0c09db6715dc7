import EpochVoting.Proofs.FeeBooks

/-!
# Shares of an epoch

The allocations of different voters to one gauge in one epoch add up to no more than
the gauge's power.  So parts of a value in proportion to them add up to no more than the
value: no epoch pays its voters more fees than it has, and no bribe more than its reward
for an epoch.
-/

namespace EpochVoting

namespace Commitments

variable {c : Commitments} {now : Epoch} {gauge : Address} {epoch : Epoch} {side : FeeSide}

/-- An allocation is live or closed, and a vote that is live has not been closed. -/
theorem Consistent.allocationOf_eq (h : c.Consistent now) (voter gauge : Address)
    (epoch : Epoch) : c.allocationOf voter gauge epoch =
      (c.vote? voter gauge epoch).elim 0 (fun x => x.allocatedPower.toNat) +
        (c.snapshot? voter epoch).elim 0 fun s => s.closedTo gauge := by
  unfold allocationOf allocation?
  cases hx : c.vote? voter gauge epoch with
  | none =>
    rw [Option.elim_none, Nat.zero_add]
    cases c.snapshot? voter epoch <;> rfl
  | some x =>
    cases hs : c.snapshot? voter epoch with
    | none => rfl
    | some s =>
      have hzero : s.closedTo gauge = 0 := by
        have hnone := h.disjoint voter gauge epoch x s hx hs
        unfold Snapshot.closedTo
        rw [hnone]
        rfl
      exact (congrArg (x.allocatedPower.toNat + ·) hzero).symm

/-- The allocations of all voters make up the gauge's power. -/
theorem Consistent.allocations_eq (h : c.Consistent now) {gauge : Address} {epoch : Epoch}
    {voters : List Address} (hnodup : voters.Nodup)
    (hall : ∀ voter a, c.allocation? voter gauge epoch = some a → voter ∈ voters) :
    (voters.map fun voter => c.allocationOf voter gauge epoch).sum = c.power gauge epoch := by
  have hlive : c.liveOn gauge epoch = (voters.map fun voter =>
      (c.vote? voter gauge epoch).elim 0 fun x => x.allocatedPower.toNat).sum := by
    refine (Table.total_by c.votes _ EpochVote.voter hnodup fun x hx hne => ?_).trans
      (congrArg List.sum (List.map_congr_left fun voter _ => ?_))
    · have hkey : x.gauge = gauge ∧ x.epoch = epoch := by
        by_contra hnot
        exact hne (if_neg hnot)
      obtain ⟨rfl, rfl⟩ := hkey
      have hfound : c.vote? x.voter x.gauge x.epoch = some x := Table.find?_key_of_mem hx
      refine hall x.voter x.allocatedPower ?_
      unfold allocation?
      rw [hfound]
    · unfold vote?
      rw [← Table.total_at]
      refine Table.total_congr fun x _ => ?_
      by_cases hvoter : x.voter = voter
      · simp only [Keyed.key, Prod.mk.injEq, hvoter, true_and, if_true]
      · simp only [Keyed.key, Prod.mk.injEq, hvoter, false_and, if_false]
  have hclosed : c.closedOn gauge epoch = (voters.map fun voter =>
      (c.snapshot? voter epoch).elim 0 fun s => s.closedTo gauge).sum := by
    refine (Table.total_by c.snapshots _ Snapshot.voter hnodup fun s hs hne => ?_).trans
      (congrArg List.sum (List.map_congr_left fun voter _ => ?_))
    · have hepoch : s.epoch = epoch := by
        by_contra hnot
        exact hne (if_neg hnot)
      subst hepoch
      rw [if_pos rfl] at hne
      cases ha : c.allocation? s.voter gauge s.epoch with
      | some a => exact hall s.voter a ha
      | none =>
        -- Without a vote the closed allocation would have been found.
        unfold allocation? at ha
        cases hx : c.vote? s.voter gauge s.epoch with
        | some x =>
          rw [hx] at ha
          cases ha
        | none =>
          rw [hx, snapshot?_of_mem hs] at ha
          have hnone : s.closedAllocation? gauge = none := ha
          unfold Snapshot.closedTo at hne
          rw [hnone] at hne
          exact absurd rfl hne
    · unfold snapshot?
      rw [← Table.total_at]
      refine Table.total_congr fun s _ => ?_
      by_cases hvoter : s.voter = voter
      · simp only [Keyed.key, Prod.mk.injEq, hvoter, true_and, if_true]
      · simp only [Keyed.key, Prod.mk.injEq, hvoter, false_and, if_false]
  rw [h.power_eq gauge epoch, hlive, hclosed, ← List.sum_map_add]
  exact congrArg List.sum (List.map_congr_left fun voter _ => h.allocationOf_eq voter gauge epoch)

section

variable {α : Type} {l : List α} {p : α → Prop} [DecidablePred p]

/-- The allocations of different voters stay within the gauge's power. -/
theorem Consistent.allocations_le (h : c.Consistent now) (voter : α → Address)
    (gauge : Address) (epoch : Epoch) (hnodup : l.Nodup)
    (hinj : ∀ a ∈ l, ∀ b ∈ l, p a → p b → voter a = voter b → a = b) :
    (l.map fun a => if p a then c.allocationOf (voter a) gauge epoch else 0).sum ≤
      c.power gauge epoch := by
  have hcounted {n : Nat} {a : α} (hne : (if p a then n else 0) ≠ 0) : p a := by
    by_contra hnot
    exact hne (if_neg hnot)
  -- Each voter is matched with the voter's live vote, and below with the voter's snapshot.
  have hlive : (l.map fun a => if p a then
      (c.vote? (voter a) gauge epoch).elim 0 (fun x => x.allocatedPower.toNat) else 0).sum ≤
      c.liveOn gauge epoch := by
    refine Table.sum_le_total hnodup (fun a => (voter a, gauge, epoch)) ?_ ?_
    · intro a ha b hb hane hbne hpartner
      exact hinj a ha b hb (hcounted hane) (hcounted hbne) (Prod.mk.inj hpartner).1
    · intro a ha
      split
      · show (c.vote? (voter a) gauge epoch).elim 0 _ ≤ (c.vote? (voter a) gauge epoch).elim 0 _
        cases hx : c.vote? (voter a) gauge epoch with
        | none => exact Nat.le_refl 0
        | some x =>
          obtain ⟨-, hgauge, hepoch⟩ := key_of_vote? hx
          show _ ≤ if x.gauge = gauge ∧ x.epoch = epoch then x.allocatedPower.toNat else 0
          rw [if_pos ⟨hgauge, hepoch⟩]
          exact Nat.le_refl _
      · exact Nat.zero_le _
  have hclosed : (l.map fun a => if p a then
      (c.snapshot? (voter a) epoch).elim 0 (fun s => s.closedTo gauge) else 0).sum ≤
      c.closedOn gauge epoch := by
    refine Table.sum_le_total hnodup (fun a => (voter a, epoch)) ?_ ?_
    · intro a ha b hb hane hbne hpartner
      exact hinj a ha b hb (hcounted hane) (hcounted hbne) (Prod.mk.inj hpartner).1
    · intro a ha
      split
      · show (c.snapshot? (voter a) epoch).elim 0 _ ≤ (c.snapshot? (voter a) epoch).elim 0 _
        cases hs : c.snapshot? (voter a) epoch with
        | none => exact Nat.le_refl 0
        | some s =>
          show _ ≤ if s.epoch = epoch then s.closedTo gauge else 0
          rw [if_pos (key_of_snapshot? hs).2]
          exact Nat.le_refl _
      · exact Nat.zero_le _
  have hsplit : (l.map fun a => if p a then c.allocationOf (voter a) gauge epoch else 0).sum ≤
      (l.map fun a => (if p a then
        (c.vote? (voter a) gauge epoch).elim 0 (fun x => x.allocatedPower.toNat) else 0) +
        if p a then (c.snapshot? (voter a) epoch).elim 0 (fun s => s.closedTo gauge)
        else 0).sum := by
    refine List.sum_le_sum fun a _ => ?_
    by_cases hp : p a
    · simp only [if_pos hp]
      exact Nat.le_of_eq (h.allocationOf_eq (voter a) gauge epoch)
    · simp only [if_neg hp]
      exact Nat.zero_le _
  rw [List.sum_map_add] at hsplit
  have hpower := h.power_eq gauge epoch
  omega

/-- The parts of different voters stay within the value that is shared out. -/
theorem Consistent.shares_le (h : c.Consistent now) (voter : α → Address)
    (gauge : Address) (epoch : Epoch) (hnodup : l.Nodup)
    (hinj : ∀ a ∈ l, ∀ b ∈ l, p a → p b → voter a = voter b → a = b) (value : Nat) :
    (l.map fun a => if p a then
      value * c.allocationOf (voter a) gauge epoch / c.power gauge epoch else 0).sum ≤
      value := by
  have hparts := h.allocations_le voter gauge epoch hnodup hinj
  refine Nat.le_trans (List.sum_le_sum fun a _ => ?_)
    (Table.sum_div_le l _ value (c.power gauge epoch) hparts)
  by_cases hp : p a
  · rw [if_pos hp, if_pos hp]
  · rw [if_neg hp]
    exact Nat.zero_le _

end

/-! ## Fees by epochs -/

/-- An epoch pays its voters no more fees than it has. -/
theorem Consistent.paidIn_le (h : c.Consistent now) (gauge : Address) (epoch : Epoch)
    (side : FeeSide) : c.paidIn gauge epoch side ≤ c.feesAt gauge epoch side := by
  have hshares := h.shares_le (p := fun s => s.epoch = epoch) Snapshot.voter gauge epoch
    c.snapshots.nodup_records
    (fun s hs t ht hsepoch htepoch hvoter =>
      Table.eq_of_key_eq hs ht (Prod.ext hvoter (hsepoch.trans htepoch.symm)))
    (c.feesAt gauge epoch side)
  refine Nat.le_trans (Table.total_mono fun s _ => ?_) hshares
  by_cases hepoch : s.epoch = epoch
  · rw [if_pos hepoch, if_pos hepoch]
    unfold paidTo feeShare
    rw [hepoch]
    split
    · exact Nat.le_refl _
    · exact Nat.zero_le _
  · rw [if_neg hepoch]
    exact Nat.zero_le _

/-- A voter who has not claimed has the voter's part left. -/
theorem Consistent.paidIn_add_feeShare_le (h : c.Consistent now) {voter : Address}
    {epoch : Epoch} {s : Snapshot} (hs : c.snapshot? voter epoch = some s) {gauge : Address}
    {side : FeeSide} (hnew : s.feeClaimed gauge side = false) :
    c.paidIn gauge epoch side + c.feeShare voter gauge epoch side ≤
      c.feesAt gauge epoch side := by
  obtain ⟨rfl, rfl⟩ := key_of_snapshot? hs
  have hshares := h.shares_le (p := fun t => t.epoch = s.epoch) Snapshot.voter gauge s.epoch
    c.snapshots.nodup_records
    (fun t ht t' ht' hepoch hepoch' hvoter =>
      Table.eq_of_key_eq ht ht' (Prod.ext hvoter (hepoch.trans hepoch'.symm)))
    (c.feesAt gauge s.epoch side)
  have hown := c.snapshots.total_single (s.voter, s.epoch) (c.feeShare s.voter gauge s.epoch side)
  rw [show c.snapshots.find? (s.voter, s.epoch) = some s from hs, Option.elim_some] at hown
  rw [← hown]
  unfold paidIn
  rw [← Table.total_add]
  refine Nat.le_trans (Table.total_mono fun t ht => ?_) hshares
  have hkey : Keyed.key t = (s.voter, s.epoch) ↔ t.voter = s.voter ∧ t.epoch = s.epoch :=
    Prod.mk_inj
  by_cases hepoch : t.epoch = s.epoch
  · rw [if_pos hepoch, if_pos hepoch]
    unfold paidTo
    by_cases hvoter : t.voter = s.voter
    · -- This is the voter's snapshot, for which nothing was paid.
      have hsame : t = s := Table.eq_of_key_eq ht (Table.mem_of_find? hs) (Prod.ext hvoter hepoch)
      rw [if_neg (by rw [hsame, hnew]; exact Bool.false_ne_true),
        if_pos (hkey.mpr ⟨hvoter, hepoch⟩), Nat.zero_add, hvoter]
      exact Nat.le_refl _
    · rw [if_neg fun heq => hvoter (hkey.mp heq).1, Nat.add_zero, hepoch]
      split
      · exact Nat.le_refl _
      · exact Nat.zero_le _
  · rw [if_neg hepoch, if_neg hepoch, if_neg fun heq => hepoch (hkey.mp heq).2]

/-- What was paid for a gauge was paid for the epochs that it has records of. -/
theorem FlagsSound.paidOn_eq (h : c.FlagsSound now) (gauge : Address) (side : FeeSide) :
    c.paidOn gauge side =
      c.epochGauges.total fun r => if r.gauge = gauge then c.paidIn gauge r.epoch side else 0 := by
  have hsingle : ∀ s ∈ c.snapshots.records, c.paidTo gauge side s =
      c.epochGauges.total fun r =>
        if r.gauge = gauge ∧ r.epoch = s.epoch then c.paidTo gauge side s else 0 := by
    intro s hs
    have hsum := c.epochGauges.total_single (gauge, s.epoch) (c.paidTo gauge side s)
    simp only [Keyed.key, Prod.mk.injEq] at hsum
    rw [hsum]
    by_cases hflag : s.feeClaimed gauge side = true
    · obtain ⟨r, hr⟩ := epochGauge?_of_power_ne_zero (h s hs gauge side hflag).2.1
      rw [show c.epochGauges.find? (gauge, s.epoch) = some r from hr]
      rfl
    · rw [show c.paidTo gauge side s = 0 from if_neg hflag]
      cases c.epochGauges.find? (gauge, s.epoch) <;> rfl
  calc c.paidOn gauge side
      = c.snapshots.total fun s => c.epochGauges.total fun r =>
          if r.gauge = gauge ∧ r.epoch = s.epoch then c.paidTo gauge side s else 0 :=
        Table.total_congr hsingle
    _ = c.epochGauges.total fun r => c.snapshots.total fun s =>
          if r.gauge = gauge ∧ r.epoch = s.epoch then c.paidTo gauge side s else 0 :=
        Table.total_comm ..
    _ = c.epochGauges.total fun r =>
          if r.gauge = gauge then c.paidIn gauge r.epoch side else 0 := by
        refine Table.total_congr fun r _ => ?_
        by_cases hgauge : r.gauge = gauge
        · rw [if_pos hgauge]
          refine Table.total_congr fun s _ => ?_
          simp only [hgauge, true_and, eq_comm (a := r.epoch)]
        · rw [if_neg hgauge]
          exact Table.total_eq_zero_iff.mpr fun s _ => if_neg fun hkey => hgauge hkey.1

/-- What a gauge owes its voters: the fees of its records that have not been claimed. -/
def owedOn (c : Commitments) (gauge : Address) (side : FeeSide) : Nat :=
  c.epochGauges.total fun r =>
    if r.gauge = gauge then (r.accruedFee side).toNat - c.paidIn gauge r.epoch side else 0

theorem owedOn_add_paidOn (hconsistent : c.Consistent now) (hflags : c.FlagsSound now)
    (gauge : Address) (side : FeeSide) :
    c.owedOn gauge side + c.paidOn gauge side = c.feesOn gauge side := by
  unfold owedOn feesOn
  rw [hflags.paidOn_eq, ← Table.total_add]
  refine Table.total_congr fun r hr => ?_
  by_cases hgauge : r.gauge = gauge
  · have hle := hconsistent.paidIn_le gauge r.epoch side
    rw [← hgauge, feesAt_of_epochGauge? (epochGauge?_of_mem hr), hgauge] at hle
    simp only [if_pos hgauge]
    omega
  · simp only [if_neg hgauge]

end Commitments
end EpochVoting
