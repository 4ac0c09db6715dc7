import EpochVoting.Proofs.Consistency

/-!
# Committing, taking back and closing

The three writes that move allocations.  A commitment adds to the gauge's total, to the
voter's total and to the live allocations at once, taking it back undoes this, and
closing moves the amount from the live to the closed allocations.  Each keeps the
records consistent; a commitment does so if the voter's total stays within the
snapshot's power, which depends on the weights and is shown elsewhere.
-/

namespace EpochVoting

/-! ## The closed allocations of one snapshot -/

namespace Snapshot

variable {s : Snapshot} {closedPower : UInt64} {a : ClosedAllocation}

/-- The snapshot with an allocation closed on it. -/
def withClosed (s : Snapshot) (closedPower : UInt64) (a : ClosedAllocation) : Snapshot :=
  { s with closedPower, closedAllocations := s.closedAllocations.insert a }

@[simp] theorem withClosed_voter : (s.withClosed closedPower a).voter = s.voter :=
  rfl

@[simp] theorem withClosed_epoch : (s.withClosed closedPower a).epoch = s.epoch :=
  rfl

theorem closedAllocation?_withClosed (gauge : Address) :
    (s.withClosed closedPower a).closedAllocation? gauge =
      if a.gauge = gauge then some a.amount else s.closedAllocation? gauge := by
  unfold closedAllocation? withClosed
  rw [Table.find?_insert_ite]
  simp only [Keyed.key]
  split <;> rfl

theorem closedTo_withClosed (gauge : Address) :
    (s.withClosed closedPower a).closedTo gauge =
      if a.gauge = gauge then a.amount.toNat else s.closedTo gauge := by
  unfold closedTo
  rw [closedAllocation?_withClosed]
  split <;> rfl

theorem closedSum_withClosed (h : s.closedAllocation? a.gauge = none) :
    (s.withClosed closedPower a).closedSum = s.closedSum + a.amount.toNat :=
  Table.total_insert_of_none _ (Option.map_eq_none_iff.mp h)

theorem closedTo_of_none {gauge : Address} (h : s.closedAllocation? gauge = none) :
    s.closedTo gauge = 0 := by
  unfold closedTo
  rw [h]
  rfl

end Snapshot

namespace Commitments

variable {c c' : Commitments} {now : Epoch} {voter gauge : Address} {epoch : Epoch}
  {r : EpochGauge} {s : Snapshot} {x : EpochVote} {gaugeTotal voterTotal : UInt64}

/-! ## Commit -/

/-- A commitment in the current epoch. -/
theorem Consistent.addVote (h : c.Consistent now)
    (hr : c.epochGauge? x.gauge x.epoch = some r) (hs : c.snapshot? x.voter x.epoch = some s)
    (hnone : c.vote? x.voter x.gauge x.epoch = none)
    (hgauges : c'.epochGauges = c.epochGauges.insert { r with totalPower := gaugeTotal })
    (hsnapshots : c'.snapshots = c.snapshots.insert { s with allocatedPower := voterTotal })
    (hvotes : c'.votes = c.votes.insert x) (hepoch : x.epoch = now)
    (hpositive : x.allocatedPower ≠ 0)
    (hgaugeTotal : gaugeTotal.toNat = r.totalPower.toNat + x.allocatedPower.toNat)
    (hvoterTotal : voterTotal.toNat = s.allocatedPower.toNat + x.allocatedPower.toNat)
    (hle : voterTotal.toNat ≤ s.votingPower.toNat) : c'.Consistent now := by
  have hrkey := key_of_epochGauge? hr
  have hskey := key_of_snapshot? hs
  have hsound := h.snapshot_sound hs
  -- The commitment is of the current epoch, and in that nothing has been closed yet.
  have hempty : s.closedAllocations = Table.empty :=
    hsound.closed_elapsed (by rw [hskey.2, hepoch]; exact UInt32.lt_irrefl now)
  have hrold := epochGauge?_self hr
  have hsold := snapshot?_self hs
  constructor
  case power_eq =>
    intro g e
    have heq := h.power_eq g e
    have hmove := power_replace hgauges hrold g e
    rw [liveOn_insert hvotes hnone, closedOn_replace_same hsnapshots hsold rfl]
    simp only [hrkey.1, hrkey.2] at hmove
    by_cases hkey : x.gauge = g ∧ x.epoch = e
    · simp only [hkey, and_self, if_true] at hmove ⊢
      omega
    · simp only [hkey, if_false] at hmove ⊢
      omega
  case closedPower_eq =>
    intro g e
    have hsame := Nat.add_right_cancel (closedPower_replace hgauges hrold g e)
    rw [hsame, closedOn_replace_same hsnapshots hsold rfl]
    exact h.closedPower_eq g e
  case allocated_eq =>
    intro v e
    have heq := h.allocated_eq v e
    have hmove := allocated_replace hsnapshots hsold v e
    have hsame := Nat.add_right_cancel (closedOf_replace hsnapshots hsold v e)
    rw [hsame, liveOf_insert hvotes hnone]
    simp only [hskey.1, hskey.2] at hmove
    by_cases hkey : x.voter = v ∧ x.epoch = e
    · simp only [hkey, and_self, if_true] at hmove ⊢
      omega
    · simp only [hkey, if_false] at hmove ⊢
      omega
  case disjoint =>
    intro v g e y s' hy hs'
    rw [snapshot?_insert hsnapshots] at hs'
    simp only [hskey.1, hskey.2] at hs'
    by_cases hkey : x.voter = v ∧ x.epoch = e
    · -- Nothing is closed in the current epoch.
      rw [if_pos hkey] at hs'
      cases hs'
      unfold Snapshot.closedAllocation?
      rw [show ({ s with allocatedPower := voterTotal } : Snapshot).closedAllocations =
        Table.empty from hempty]
      rfl
    · rw [if_neg hkey] at hs'
      rw [vote?_insert hvotes, if_neg fun hvote => hkey ⟨hvote.1, hvote.2.2⟩] at hy
      exact h.disjoint v g e y s' hy hs'
  case snapshots =>
    rw [hsnapshots]
    refine Table.forall_insert ?_ h.snapshots
    exact {
      closed_eq := hsound.closed_eq
      allocated_le := hle
      closed_pos := hsound.closed_pos
      epoch_le := hsound.epoch_le
      closed_elapsed := hsound.closed_elapsed }
  case votes =>
    rw [hvotes]
    exact Table.forall_insert ⟨hpositive, hepoch ▸ UInt32.le_refl x.epoch⟩ h.votes
  case gauges =>
    rw [hgauges]
    exact Table.forall_insert (h.gauges r (Table.mem_of_find? hr)) h.gauges

/-! ## Revert -/

/-- A commitment taken back. -/
theorem Consistent.removeVote (h : c.Consistent now)
    (hvote : c.vote? voter gauge epoch = some x)
    (hr : c.epochGauge? gauge epoch = some r) (hs : c.snapshot? voter epoch = some s)
    (hgauges : c'.epochGauges = c.epochGauges.insert { r with totalPower := gaugeTotal })
    (hsnapshots : c'.snapshots = c.snapshots.insert { s with allocatedPower := voterTotal })
    (hvotes : c'.votes = c.votes.erase (voter, gauge, epoch))
    (hgaugeTotal : r.totalPower.toNat = gaugeTotal.toNat + x.allocatedPower.toNat)
    (hvoterTotal : s.allocatedPower.toNat = voterTotal.toNat + x.allocatedPower.toNat) :
    c'.Consistent now := by
  have hrkey := key_of_epochGauge? hr
  have hskey := key_of_snapshot? hs
  have hsound := h.snapshot_sound hs
  have hrold := epochGauge?_self hr
  have hsold := snapshot?_self hs
  constructor
  case power_eq =>
    intro g e
    have heq := h.power_eq g e
    have hlive := liveOn_erase hvotes hvote g e
    have hmove := power_replace hgauges hrold g e
    rw [closedOn_replace_same hsnapshots hsold rfl]
    simp only [hrkey.1, hrkey.2] at hmove
    by_cases hkey : gauge = g ∧ epoch = e
    · simp only [hkey, and_self, if_true] at hlive hmove
      omega
    · simp only [hkey, if_false] at hlive hmove
      omega
  case closedPower_eq =>
    intro g e
    have hsame := Nat.add_right_cancel (closedPower_replace hgauges hrold g e)
    rw [hsame, closedOn_replace_same hsnapshots hsold rfl]
    exact h.closedPower_eq g e
  case allocated_eq =>
    intro v e
    have heq := h.allocated_eq v e
    have hlive := liveOf_erase hvotes hvote v e
    have hmove := allocated_replace hsnapshots hsold v e
    have hsame := Nat.add_right_cancel (closedOf_replace hsnapshots hsold v e)
    rw [hsame]
    simp only [hskey.1, hskey.2] at hmove
    by_cases hkey : voter = v ∧ epoch = e
    · simp only [hkey, and_self, if_true] at hlive hmove
      omega
    · simp only [hkey, if_false] at hlive hmove
      omega
  case disjoint =>
    intro v g e y s' hy hs'
    rw [vote?_erase hvotes] at hy
    rw [snapshot?_insert hsnapshots] at hs'
    simp only [hskey.1, hskey.2] at hs'
    split at hy
    · cases hy
    · by_cases hkey : voter = v ∧ epoch = e
      · rw [if_pos hkey] at hs'
        cases hs'
        obtain ⟨rfl, rfl⟩ := hkey
        exact h.disjoint _ g _ y s hy hs
      · rw [if_neg hkey] at hs'
        exact h.disjoint v g e y s' hy hs'
  case snapshots =>
    rw [hsnapshots]
    refine Table.forall_insert ?_ h.snapshots
    have hle := hsound.allocated_le
    exact {
      closed_eq := hsound.closed_eq
      allocated_le := by
        change voterTotal.toNat ≤ s.votingPower.toNat
        omega
      closed_pos := hsound.closed_pos
      epoch_le := hsound.epoch_le
      closed_elapsed := hsound.closed_elapsed }
  case votes =>
    rw [hvotes]
    exact Table.forall_erase h.votes
  case gauges =>
    rw [hgauges]
    exact Table.forall_insert (h.gauges r (Table.mem_of_find? hr)) h.gauges

/-! ## Close -/

variable {gaugeClosed voterClosed : UInt64}

/-- An allocation that is closed on a snapshot counts for its gauge. -/
theorem closedOn_withClosed {a : ClosedAllocation}
    (hsnapshots : c'.snapshots = c.snapshots.insert (s.withClosed voterClosed a))
    (hs : c.snapshot? s.voter s.epoch = some s) (hnone : s.closedAllocation? a.gauge = none)
    (gauge : Address) (epoch : Epoch) : c'.closedOn gauge epoch = c.closedOn gauge epoch +
      if a.gauge = gauge ∧ s.epoch = epoch then a.amount.toNat else 0 := by
  have hmove := closedOn_replace hsnapshots hs gauge epoch
  have hzero := Snapshot.closedTo_of_none hnone
  rw [Snapshot.closedTo_withClosed, Snapshot.withClosed_epoch] at hmove
  by_cases hepoch : s.epoch = epoch
  · by_cases hgauge : a.gauge = gauge
    · rw [hgauge] at hzero
      simp only [hepoch, hgauge, and_self, if_true, hzero] at hmove ⊢
      omega
    · simp only [hepoch, hgauge, false_and, if_true, if_false] at hmove ⊢
      omega
  · simp only [hepoch, and_false, if_false] at hmove ⊢
    omega

/-- A commitment of an elapsed epoch closed. -/
theorem Consistent.closeVote (h : c.Consistent now)
    (hvote : c.vote? voter gauge epoch = some x)
    (hr : c.epochGauge? gauge epoch = some r) (hs : c.snapshot? voter epoch = some s)
    (hgauges : c'.epochGauges = c.epochGauges.insert { r with closedPower := gaugeClosed })
    (hsnapshots : c'.snapshots =
      c.snapshots.insert (s.withClosed voterClosed ⟨gauge, x.allocatedPower⟩))
    (hvotes : c'.votes = c.votes.erase (voter, gauge, epoch)) (helapsed : epoch < now)
    (hgaugeClosed : gaugeClosed.toNat = r.closedPower.toNat + x.allocatedPower.toNat)
    (hvoterClosed : voterClosed.toNat = s.closedPower.toNat + x.allocatedPower.toNat) :
    c'.Consistent now := by
  have hrkey := key_of_epochGauge? hr
  have hskey := key_of_snapshot? hs
  have hsound := h.snapshot_sound hs
  have hrold := epochGauge?_self hr
  have hsold := snapshot?_self hs
  -- The gauge had no closed allocation on the snapshot, because its vote was live.
  have hnone : s.closedAllocation? gauge = none :=
    h.disjoint voter gauge epoch x s hvote hs
  have hsum : (s.withClosed voterClosed ⟨gauge, x.allocatedPower⟩).closedSum =
      s.closedSum + x.allocatedPower.toNat :=
    Snapshot.closedSum_withClosed hnone
  have hclosedOn (g : Address) (e : Epoch) : c'.closedOn g e = c.closedOn g e +
      if gauge = g ∧ epoch = e then x.allocatedPower.toNat else 0 := by
    rw [closedOn_withClosed hsnapshots hsold hnone g e, hskey.2]
  constructor
  case power_eq =>
    intro g e
    have heq := h.power_eq g e
    have hlive := liveOn_erase hvotes hvote g e
    have hsame := Nat.add_right_cancel (power_replace hgauges hrold g e)
    rw [hsame, hclosedOn g e]
    omega
  case closedPower_eq =>
    intro g e
    have heq := h.closedPower_eq g e
    have hmove := closedPower_replace hgauges hrold g e
    rw [hclosedOn g e]
    simp only [hrkey.1, hrkey.2] at hmove
    by_cases hkey : gauge = g ∧ epoch = e
    · simp only [hkey, and_self, if_true] at hmove ⊢
      omega
    · simp only [hkey, if_false] at hmove ⊢
      omega
  case allocated_eq =>
    intro v e
    have heq := h.allocated_eq v e
    have hlive := liveOf_erase hvotes hvote v e
    have hsame := Nat.add_right_cancel (allocated_replace hsnapshots hsold v e)
    have hmove := closedOf_replace hsnapshots hsold v e
    rw [hsame]
    simp only [Snapshot.withClosed_voter, Snapshot.withClosed_epoch, hskey.1, hskey.2,
      hsum] at hmove
    by_cases hkey : voter = v ∧ epoch = e
    · simp only [hkey, and_self, if_true] at hlive hmove
      omega
    · simp only [hkey, if_false] at hlive hmove
      omega
  case disjoint =>
    intro v g e y s' hy hs'
    rw [vote?_erase hvotes] at hy
    rw [snapshot?_insert hsnapshots] at hs'
    simp only [Snapshot.withClosed_voter, Snapshot.withClosed_epoch, hskey.1, hskey.2] at hs'
    split at hy
    · cases hy
    · next hne =>
      by_cases hkey : voter = v ∧ epoch = e
      · rw [if_pos hkey] at hs'
        cases hs'
        obtain ⟨rfl, rfl⟩ := hkey
        have hgauge : gauge ≠ g := fun heq => hne ⟨rfl, heq, rfl⟩
        rw [Snapshot.closedAllocation?_withClosed, if_neg hgauge]
        exact h.disjoint _ g _ y s hy hs
      · rw [if_neg hkey] at hs'
        exact h.disjoint v g e y s' hy hs'
  case snapshots =>
    rw [hsnapshots]
    refine Table.forall_insert ?_ h.snapshots
    exact {
      closed_eq := by
        rw [hsum, ← hsound.closed_eq]
        exact hvoterClosed
      allocated_le := hsound.allocated_le
      closed_pos := Table.forall_insert (h.vote_sound hvote).allocated_ne_zero
        hsound.closed_pos
      epoch_le := hsound.epoch_le
      closed_elapsed := by
        change ¬ s.epoch < now → _
        rw [hskey.2]
        exact fun hlive => absurd helapsed hlive }
  case votes =>
    rw [hvotes]
    exact Table.forall_erase h.votes
  case gauges =>
    rw [hgauges]
    exact Table.forall_insert (h.gauges r (Table.mem_of_find? hr)) h.gauges

end Commitments
end EpochVoting
