import EpochVoting.Proofs.Power

/-!
# The records of epochs agree with each other

`Commitments.Consistent c now` says that the three records of committed power agree
for every gauge, voter and epoch, that nobody has allocated more than there was, that
votes and closed allocations do not overlap, and that nothing is closed before its
epoch is over.  Each write of a record keeps it, under the conditions that the engine
checks.
-/

namespace EpochVoting

/-- A snapshot whose own numbers agree, in the epoch `now`. -/
structure Snapshot.Sound (s : Snapshot) (now : Epoch) : Prop where
  closed_eq : s.closedPower.toNat = s.closedSum
  allocated_le : s.allocatedPower.toNat ≤ s.votingPower.toNat
  closed_pos : ∀ a ∈ s.closedAllocations.records, a.amount ≠ 0
  epoch_le : s.epoch ≤ now
  closed_elapsed : ¬ s.epoch < now → s.closedAllocations = Table.empty

/-- A vote that counts and is not of a later epoch. -/
structure EpochVote.Sound (x : EpochVote) (now : Epoch) : Prop where
  allocated_ne_zero : x.allocatedPower ≠ 0
  epoch_le : x.epoch ≤ now

namespace Commitments

variable {c c' : Commitments} {now : Epoch}

/-- The records agree, in the epoch `now`. -/
structure Consistent (c : Commitments) (now : Epoch) : Prop where
  power_eq : ∀ gauge epoch, c.power gauge epoch = c.liveOn gauge epoch + c.closedOn gauge epoch
  closedPower_eq : ∀ gauge epoch, c.closedPower gauge epoch = c.closedOn gauge epoch
  allocated_eq : ∀ voter epoch,
    c.allocated voter epoch = c.liveOf voter epoch + c.closedOf voter epoch
  disjoint : ∀ voter gauge epoch x s, c.vote? voter gauge epoch = some x →
    c.snapshot? voter epoch = some s → s.closedAllocation? gauge = none
  snapshots : ∀ s ∈ c.snapshots.records, s.Sound now
  votes : ∀ x ∈ c.votes.records, x.Sound now
  gauges : ∀ r ∈ c.epochGauges.records, r.epoch ≤ now

theorem consistent_empty (now : Epoch) : empty.Consistent now where
  power_eq _ _ := rfl
  closedPower_eq _ _ := rfl
  allocated_eq _ _ := rfl
  disjoint _ _ _ _ _ h := by cases h
  snapshots _ h := by cases h
  votes _ h := by cases h
  gauges _ h := by cases h

/-! ## What consistency says about single records -/

namespace Consistent

theorem snapshot_sound (h : c.Consistent now) {voter : Address} {epoch : Epoch} {s : Snapshot}
    (hs : c.snapshot? voter epoch = some s) : s.Sound now :=
  h.snapshots s (Table.mem_of_find? hs)

theorem vote_sound (h : c.Consistent now) {voter gauge : Address} {epoch : Epoch}
    {x : EpochVote} (hx : c.vote? voter gauge epoch = some x) : x.Sound now :=
  h.votes x (Table.mem_of_find? hx)

theorem vote_toNat_pos (h : c.Consistent now) {x : EpochVote} (hx : x ∈ c.votes.records) :
    0 < x.allocatedPower.toNat := by
  have hne := (h.votes x hx).allocated_ne_zero
  exact Nat.pos_of_ne_zero fun hzero => hne (UInt64.toNat_inj.mp hzero)

/-- A voter without allocated power has no live vote. -/
theorem no_vote_of_allocated_zero (h : c.Consistent now) {voter : Address} {epoch : Epoch}
    (hzero : c.allocated voter epoch = 0) {x : EpochVote} (hx : x ∈ c.votes.records)
    (hvoter : x.voter = voter) : x.epoch ≠ epoch := by
  intro hepoch
  have hsum := h.allocated_eq voter epoch
  have hle := Table.le_total_of_mem (f := fun x : EpochVote =>
    if x.voter = voter ∧ x.epoch = epoch then x.allocatedPower.toNat else 0) hx
  -- A live vote of the voter would count in the voter's allocated power.
  have hpos := h.vote_toNat_pos hx
  change _ ≤ c.liveOf voter epoch at hle
  simp only [hvoter, hepoch, and_self, if_true] at hle
  omega

/-- A gauge without power in an epoch has neither live nor closed allocations in it. -/
theorem sums_of_power_zero (h : c.Consistent now) {gauge : Address} {epoch : Epoch}
    (hzero : c.power gauge epoch = 0) :
    c.liveOn gauge epoch = 0 ∧ c.closedOn gauge epoch = 0 := by
  have hsum := h.power_eq gauge epoch
  omega

/-- Nothing is closed in an epoch that is not over. -/
theorem closed_of_not_elapsed (h : c.Consistent now) {epoch : Epoch} (hlive : ¬ epoch < now) :
    (∀ voter, c.closedOf voter epoch = 0) ∧ ∀ gauge, c.closedOn gauge epoch = 0 := by
  constructor
  · intro voter
    cases hs : c.snapshot? voter epoch with
    | none =>
      unfold closedOf
      rw [hs]
      rfl
    | some s =>
      rw [closedOf_of_snapshot? hs]
      have hepoch := (key_of_snapshot? hs).2
      exact Snapshot.closedSum_of_empty
        ((h.snapshot_sound hs).closed_elapsed (hepoch ▸ hlive))
  · intro gauge
    refine Table.total_eq_zero_iff.mpr fun s hs => ?_
    by_cases hepoch : s.epoch = epoch
    · rw [if_pos hepoch]
      exact Snapshot.closedTo_of_empty ((h.snapshots s hs).closed_elapsed (hepoch ▸ hlive)) _
    · rw [if_neg hepoch]

end Consistent

/-! ## Time -/

/-- The records stay consistent when the epoch advances. -/
theorem Consistent.advance {later : Epoch} (h : c.Consistent now) (hle : now ≤ later) :
    c.Consistent later where
  power_eq := h.power_eq
  closedPower_eq := h.closedPower_eq
  allocated_eq := h.allocated_eq
  disjoint := h.disjoint
  snapshots s hs :=
    { closed_eq := (h.snapshots s hs).closed_eq
      allocated_le := (h.snapshots s hs).allocated_le
      closed_pos := (h.snapshots s hs).closed_pos
      epoch_le := UInt32.le_trans (h.snapshots s hs).epoch_le hle
      closed_elapsed := fun hlive => (h.snapshots s hs).closed_elapsed fun helapsed =>
        hlive (UInt32.lt_of_lt_of_le helapsed hle) }
  votes x hx :=
    { allocated_ne_zero := (h.votes x hx).allocated_ne_zero
      epoch_le := UInt32.le_trans (h.votes x hx).epoch_le hle }
  gauges r hr := UInt32.le_trans (h.gauges r hr) hle

/-! ## Writes

Each statement is about any `c'` whose tables are those of `c` after the write. -/

/-- A new snapshot of the current epoch. -/
theorem Consistent.takeSnapshot (h : c.Consistent now) {s : Snapshot}
    (hgauges : c'.epochGauges = c.epochGauges) (hvotes : c'.votes = c.votes)
    (hsnapshots : c'.snapshots = c.snapshots.insert s)
    (hnone : c.snapshot? s.voter s.epoch = none) (hepoch : s.epoch = now)
    (hallocated : s.allocatedPower = 0) (hclosed : s.closedPower = 0)
    (hempty : s.closedAllocations = Table.empty) : c'.Consistent now := by
  have hzero : c.allocated s.voter s.epoch = 0 := by
    unfold allocated
    rw [hnone]
    rfl
  constructor
  case power_eq =>
    intro gauge epoch
    rw [power_congr hgauges, liveOn_congr hvotes, closedOn_new hsnapshots hnone hempty]
    exact h.power_eq gauge epoch
  case closedPower_eq =>
    intro gauge epoch
    rw [closedPower_congr hgauges, closedOn_new hsnapshots hnone hempty]
    exact h.closedPower_eq gauge epoch
  case allocated_eq =>
    intro voter epoch
    have hold := h.allocated_eq voter epoch
    rw [allocated_insert hsnapshots, closedOf_insert hsnapshots, liveOf_congr hvotes]
    by_cases hkey : s.voter = voter ∧ s.epoch = epoch
    · obtain ⟨rfl, rfl⟩ := hkey
      rw [if_pos ⟨rfl, rfl⟩, if_pos ⟨rfl, rfl⟩, Snapshot.closedSum_of_empty hempty, hallocated]
      change 0 = _
      omega
    · rw [if_neg hkey, if_neg hkey]
      exact hold
  case disjoint =>
    intro voter gauge epoch x s' hx hs
    rw [snapshot?_insert hsnapshots] at hs
    unfold vote? at hx
    rw [hvotes] at hx
    by_cases hkey : s.voter = voter ∧ s.epoch = epoch
    · rw [if_pos hkey] at hs
      cases hs
      unfold Snapshot.closedAllocation?
      rw [hempty]
      rfl
    · rw [if_neg hkey] at hs
      exact h.disjoint voter gauge epoch x s' hx hs
  case snapshots =>
    rw [hsnapshots]
    refine Table.forall_insert ?_ h.snapshots
    exact {
      closed_eq := by rw [hclosed, Snapshot.closedSum_of_empty hempty]; rfl
      allocated_le := by rw [hallocated]; exact Nat.zero_le _
      closed_pos := by rw [hempty]; exact fun _ ha => by cases ha
      epoch_le := hepoch ▸ UInt32.le_refl s.epoch
      closed_elapsed := fun _ => hempty }
  case votes =>
    rw [hvotes]
    exact h.votes
  case gauges =>
    rw [hgauges]
    exact h.gauges

/-- A snapshot replaced by one that has the same allocations. -/
theorem Consistent.replaceSnapshot (h : c.Consistent now) {s old : Snapshot}
    (hgauges : c'.epochGauges = c.epochGauges) (hvotes : c'.votes = c.votes)
    (hsnapshots : c'.snapshots = c.snapshots.insert s)
    (hold : c.snapshot? s.voter s.epoch = some old)
    (hallocated : s.allocatedPower = old.allocatedPower)
    (hclosed : s.closedPower = old.closedPower)
    (hsame : s.closedAllocations = old.closedAllocations)
    (hle : s.allocatedPower.toNat ≤ s.votingPower.toNat) : c'.Consistent now := by
  have hepoch := (key_of_snapshot? hold).2
  have hsound := h.snapshot_sound hold
  have hsum : s.closedSum = old.closedSum := by
    unfold Snapshot.closedSum
    rw [hsame]
  constructor
  case power_eq =>
    intro gauge epoch
    rw [power_congr hgauges, liveOn_congr hvotes, closedOn_replace_same hsnapshots hold hsame]
    exact h.power_eq gauge epoch
  case closedPower_eq =>
    intro gauge epoch
    rw [closedPower_congr hgauges, closedOn_replace_same hsnapshots hold hsame]
    exact h.closedPower_eq gauge epoch
  case allocated_eq =>
    intro voter epoch
    have hpower := allocated_replace hsnapshots hold voter epoch
    have hclosedPower := closedOf_replace hsnapshots hold voter epoch
    rw [hallocated] at hpower
    rw [hsum] at hclosedPower
    rw [Nat.add_right_cancel hpower, Nat.add_right_cancel hclosedPower, liveOf_congr hvotes]
    exact h.allocated_eq voter epoch
  case disjoint =>
    intro voter gauge epoch x s' hx hs
    rw [snapshot?_insert hsnapshots] at hs
    unfold vote? at hx
    rw [hvotes] at hx
    by_cases hkey : s.voter = voter ∧ s.epoch = epoch
    · rw [if_pos hkey] at hs
      cases hs
      obtain ⟨rfl, rfl⟩ := hkey
      unfold Snapshot.closedAllocation?
      rw [hsame]
      exact h.disjoint _ gauge _ x old hx hold
    · rw [if_neg hkey] at hs
      exact h.disjoint voter gauge epoch x s' hx hs
  case snapshots =>
    rw [hsnapshots]
    refine Table.forall_insert ?_ h.snapshots
    exact {
      closed_eq := by rw [hclosed, hsum]; exact hsound.closed_eq
      allocated_le := hle
      closed_pos := by rw [hsame]; exact hsound.closed_pos
      epoch_le := hepoch ▸ hsound.epoch_le
      closed_elapsed := by rw [hsame, ← hepoch]; exact hsound.closed_elapsed }
  case votes =>
    rw [hvotes]
    exact h.votes
  case gauges =>
    rw [hgauges]
    exact h.gauges

/-- A new record of the current epoch. -/
theorem Consistent.newEpochGauge (h : c.Consistent now) {r : EpochGauge}
    (hgauges : c'.epochGauges = c.epochGauges.insert r)
    (hsnapshots : c'.snapshots = c.snapshots) (hvotes : c'.votes = c.votes)
    (hnone : c.epochGauge? r.gauge r.epoch = none) (hepoch : r.epoch = now)
    (htotal : r.totalPower = 0) (hclosed : r.closedPower = 0) : c'.Consistent now := by
  have hzero : c.power r.gauge r.epoch = 0 ∧ c.closedPower r.gauge r.epoch = 0 := by
    unfold power closedPower
    rw [hnone]
    exact ⟨rfl, rfl⟩
  constructor
  case power_eq =>
    intro gauge epoch
    rw [power_insert hgauges, liveOn_congr hvotes, closedOn_congr hsnapshots,
      ← h.power_eq gauge epoch]
    split
    · next hkey =>
      obtain ⟨rfl, rfl⟩ := hkey
      rw [htotal]
      exact hzero.1.symm
    · rfl
  case closedPower_eq =>
    intro gauge epoch
    rw [closedPower_insert hgauges, closedOn_congr hsnapshots, ← h.closedPower_eq gauge epoch]
    split
    · next hkey =>
      obtain ⟨rfl, rfl⟩ := hkey
      rw [hclosed]
      exact hzero.2.symm
    · rfl
  case allocated_eq =>
    intro voter epoch
    rw [allocated_congr hsnapshots, closedOf_congr hsnapshots, liveOf_congr hvotes]
    exact h.allocated_eq voter epoch
  case disjoint =>
    unfold vote? snapshot?
    rw [hvotes, hsnapshots]
    exact h.disjoint
  case snapshots =>
    rw [hsnapshots]
    exact h.snapshots
  case votes =>
    rw [hvotes]
    exact h.votes
  case gauges =>
    rw [hgauges]
    exact Table.forall_insert (hepoch ▸ UInt32.le_refl r.epoch) h.gauges

/-- A record without power removed. -/
theorem Consistent.removeEpochGauge (h : c.Consistent now) {gauge : Address} {epoch : Epoch}
    (hgauges : c'.epochGauges = c.epochGauges.erase (gauge, epoch))
    (hsnapshots : c'.snapshots = c.snapshots) (hvotes : c'.votes = c.votes)
    (hzero : c.power gauge epoch = 0) : c'.Consistent now := by
  have hzeros : c.closedPower gauge epoch = 0 := by
    rw [h.closedPower_eq gauge epoch]
    exact (h.sums_of_power_zero hzero).2
  constructor
  case power_eq =>
    intro g e
    rw [liveOn_congr hvotes, closedOn_congr hsnapshots, ← h.power_eq g e]
    unfold power
    rw [epochGauge?_erase hgauges]
    split
    · next hkey =>
      obtain ⟨rfl, rfl⟩ := hkey
      exact hzero.symm
    · rfl
  case closedPower_eq =>
    intro g e
    rw [closedOn_congr hsnapshots, ← h.closedPower_eq g e]
    unfold closedPower
    rw [epochGauge?_erase hgauges]
    split
    · next hkey =>
      obtain ⟨rfl, rfl⟩ := hkey
      exact hzeros.symm
    · rfl
  case allocated_eq =>
    intro voter e
    rw [allocated_congr hsnapshots, closedOf_congr hsnapshots, liveOf_congr hvotes]
    exact h.allocated_eq voter e
  case disjoint =>
    unfold vote? snapshot?
    rw [hvotes, hsnapshots]
    exact h.disjoint
  case snapshots =>
    rw [hsnapshots]
    exact h.snapshots
  case votes =>
    rw [hvotes]
    exact h.votes
  case gauges =>
    rw [hgauges]
    exact Table.forall_erase h.gauges

end Commitments
end EpochVoting
