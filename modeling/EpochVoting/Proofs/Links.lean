import EpochVoting.Proofs.Persistence

/-!
# How the records of epochs refer to each other

A live vote, a closed allocation, a flag and a settlement of a bribe all belong to an
epoch, and name a voter or a gauge.  After every run the records that they name are there:
no call removes a record that another one still needs, and no call writes one for an epoch
that it cannot be of yet (`Engine.Linked`).  Every allocation counts once on its gauge's
record and once on its voter's snapshot, so the power of all gauges in an epoch is what all
voters have allocated in it.
-/

namespace EpochVoting

namespace Snapshot

variable {s : Snapshot} {a : ClosedAllocation}

theorem closedAllocation?_of_mem (ha : a ∈ s.closedAllocations.records) :
    s.closedAllocation? a.gauge = some a.amount := by
  have hfound : s.closedAllocations.find? a.gauge = some a := Table.find?_key_of_mem ha
  simp [closedAllocation?, hfound]

theorem closedTo_of_mem (ha : a ∈ s.closedAllocations.records) :
    s.closedTo a.gauge = a.amount.toNat := by
  simp [closedTo, closedAllocation?_of_mem ha]

/-- There is at most one closed allocation to a gauge. -/
theorem closedTo_eq_total (gauge : Address) : s.closedTo gauge =
    s.closedAllocations.total fun a => if gauge = a.gauge then a.amount.toNat else 0 := by
  have hsingle := s.closedAllocations.total_at gauge fun a => a.amount.toNat
  simp only [Keyed.key, eq_comm (b := gauge)] at hsingle
  rw [hsingle]
  unfold closedTo closedAllocation?
  cases s.closedAllocations.find? gauge <;> simp

end Snapshot

namespace Commitments

variable {c : Commitments} {now : Epoch}

/-! ## The power of an epoch -/

/-- The power of all gauges in an epoch. -/
def powerIn (c : Commitments) (epoch : Epoch) : Nat :=
  c.epochGauges.total fun r => if r.epoch = epoch then r.totalPower.toNat else 0

/-- What all voters have allocated in an epoch. -/
def allocatedIn (c : Commitments) (epoch : Epoch) : Nat :=
  c.snapshots.total fun s => if s.epoch = epoch then s.allocatedPower.toNat else 0

/-- All live allocations of an epoch. -/
def liveIn (c : Commitments) (epoch : Epoch) : Nat :=
  c.votes.total fun x => if x.epoch = epoch then x.allocatedPower.toNat else 0

/-- All closed allocations of an epoch. -/
def closedIn (c : Commitments) (epoch : Epoch) : Nat :=
  c.snapshots.total fun s => if s.epoch = epoch then s.closedSum else 0

/-! ## The records behind an allocation -/

theorem le_liveOn {x : EpochVote} (hx : x ∈ c.votes.records) :
    x.allocatedPower.toNat ≤ c.liveOn x.gauge x.epoch := by
  have hle := Table.le_total_of_mem (f := fun y : EpochVote =>
    if y.gauge = x.gauge ∧ y.epoch = x.epoch then y.allocatedPower.toNat else 0) hx
  simpa [liveOn] using hle

theorem le_liveOf {x : EpochVote} (hx : x ∈ c.votes.records) :
    x.allocatedPower.toNat ≤ c.liveOf x.voter x.epoch := by
  have hle := Table.le_total_of_mem (f := fun y : EpochVote =>
    if y.voter = x.voter ∧ y.epoch = x.epoch then y.allocatedPower.toNat else 0) hx
  simpa [liveOf] using hle

theorem le_closedOn {s : Snapshot} (hs : s ∈ c.snapshots.records) (gauge : Address) :
    s.closedTo gauge ≤ c.closedOn gauge s.epoch := by
  have hle := Table.le_total_of_mem (f := fun t : Snapshot =>
    if t.epoch = s.epoch then t.closedTo gauge else 0) hs
  simpa [closedOn] using hle

/-- A voter with allocated power in an epoch has a snapshot of it. -/
theorem snapshot?_of_allocated_ne_zero {voter : Address} {epoch : Epoch}
    (h : c.allocated voter epoch ≠ 0) : ∃ s, c.snapshot? voter epoch = some s := by
  unfold allocated at h
  cases hs : c.snapshot? voter epoch with
  | none => simp [hs] at h
  | some s => exact ⟨s, rfl⟩

namespace Consistent

variable {x : EpochVote} {s : Snapshot} {a : ClosedAllocation}

theorem epochGauge?_of_vote (h : c.Consistent now) (hx : x ∈ c.votes.records) :
    ∃ r, c.epochGauge? x.gauge x.epoch = some r := by
  have hpower := h.power_eq x.gauge x.epoch
  have hpositive := h.vote_toNat_pos hx
  have hle := le_liveOn hx
  exact epochGauge?_of_power_ne_zero (by omega)

theorem snapshot?_of_vote (h : c.Consistent now) (hx : x ∈ c.votes.records) :
    ∃ s, c.snapshot? x.voter x.epoch = some s := by
  have hallocated := h.allocated_eq x.voter x.epoch
  have hpositive := h.vote_toNat_pos hx
  have hle := le_liveOf hx
  exact snapshot?_of_allocated_ne_zero (by omega)

theorem epochGauge?_of_closed (h : c.Consistent now) (hs : s ∈ c.snapshots.records)
    (hclosed : s.closedTo a.gauge ≠ 0) : ∃ r, c.epochGauge? a.gauge s.epoch = some r := by
  have hpower := h.power_eq a.gauge s.epoch
  have hle := le_closedOn hs a.gauge
  exact epochGauge?_of_power_ne_zero (by omega)

/-- Allocations are closed only once their epoch is over. -/
theorem elapsed_of_closed (h : c.Consistent now) (hs : s ∈ c.snapshots.records)
    (ha : a ∈ s.closedAllocations.records) : s.epoch < now := by
  by_contra hlive
  rw [(h.snapshots s hs).closed_elapsed hlive] at ha
  cases ha

theorem no_vote_of_closed (h : c.Consistent now) (hs : s ∈ c.snapshots.records)
    (ha : a ∈ s.closedAllocations.records) : c.vote? s.voter a.gauge s.epoch = none := by
  have hfound := Snapshot.closedAllocation?_of_mem ha
  cases hx : c.vote? s.voter a.gauge s.epoch with
  | none => rfl
  | some x =>
    have hnone := h.disjoint s.voter a.gauge s.epoch x s hx (snapshot?_of_mem hs)
    simp [hfound] at hnone

/-- Nothing is recorded as allocated exactly if there is no allocation. -/
theorem allocatedPower_eq_zero_iff (h : c.Consistent now) (hs : s ∈ c.snapshots.records) :
    s.allocatedPower = 0 ↔
      (∀ gauge, c.vote? s.voter gauge s.epoch = none) ∧ s.closedAllocations.records = [] := by
  have hfound := snapshot?_of_mem hs
  have hsum := h.allocated_eq s.voter s.epoch
  rw [allocated_of_snapshot? hfound, closedOf_of_snapshot? hfound] at hsum
  have hlive : c.liveOf s.voter s.epoch = 0 ↔
      ∀ gauge, c.vote? s.voter gauge s.epoch = none := by
    constructor
    · intro hzero gauge
      cases hx : c.vote? s.voter gauge s.epoch with
      | none => rfl
      | some x =>
        have hmem := Table.mem_of_find? hx
        obtain ⟨hvoter, -, hepoch⟩ := key_of_vote? hx
        have hle := le_liveOf hmem
        have hpositive := h.vote_toNat_pos hmem
        rw [hvoter, hepoch] at hle
        omega
    · intro hnone
      refine Table.total_eq_zero_iff.mpr fun x hx => if_neg ?_
      rintro ⟨hvoter, hepoch⟩
      have hmem : c.vote? x.voter x.gauge x.epoch = some x := Table.find?_key_of_mem hx
      rw [hvoter, hepoch, hnone] at hmem
      cases hmem
  have hclosed : s.closedSum = 0 ↔ s.closedAllocations.records = [] := by
    constructor
    · intro hzero
      refine List.eq_nil_iff_forall_not_mem.mpr fun a ha => ?_
      have hamount := Table.total_eq_zero_iff.mp hzero a ha
      exact (h.snapshots s hs).closed_pos a ha (UInt64.toNat_inj.mp hamount)
    · intro hnil
      simp [Snapshot.closedSum, Table.total, hnil]
  rw [← hlive, ← hclosed, ← UInt64.toNat_inj, hsum]
  simp

/-! ## Power and allocations balance -/

/-- The live allocations of an epoch, gauge by gauge. -/
theorem total_liveOn (h : c.Consistent now) (epoch : Epoch) :
    (c.epochGauges.total fun r => if r.epoch = epoch then c.liveOn r.gauge epoch else 0) =
      c.liveIn epoch := by
  rw [liveIn, ← Table.total_partners (t := c.epochGauges)
    fun x : EpochVote => (x.gauge, epoch)]
  · refine Table.total_congr fun r _ => ?_
    by_cases hepoch : r.epoch = epoch
    · rw [if_pos hepoch]
      refine Table.total_congr fun x _ => ?_
      simp [Keyed.key, hepoch, eq_comm, ite_and]
    · simp [Keyed.key, hepoch, Table.total]
  · intro x hx hcounts
    have hepoch : x.epoch = epoch := by
      by_contra hne
      simp [hne] at hcounts
    exact hepoch ▸ h.epochGauge?_of_vote hx

/-- The live allocations of an epoch, voter by voter. -/
theorem total_liveOf (h : c.Consistent now) (epoch : Epoch) :
    (c.snapshots.total fun s => if s.epoch = epoch then c.liveOf s.voter epoch else 0) =
      c.liveIn epoch := by
  rw [liveIn, ← Table.total_partners (t := c.snapshots)
    fun x : EpochVote => (x.voter, epoch)]
  · refine Table.total_congr fun s _ => ?_
    by_cases hepoch : s.epoch = epoch
    · rw [if_pos hepoch]
      refine Table.total_congr fun x _ => ?_
      simp [Keyed.key, hepoch, eq_comm, ite_and]
    · simp [Keyed.key, hepoch, Table.total]
  · intro x hx hcounts
    have hepoch : x.epoch = epoch := by
      by_contra hne
      simp [hne] at hcounts
    exact hepoch ▸ h.snapshot?_of_vote hx

/-- The closed allocations of a snapshot, gauge by gauge. -/
theorem total_closedTo (h : c.Consistent now) (hs : s ∈ c.snapshots.records) :
    (c.epochGauges.total fun r => if r.epoch = s.epoch then s.closedTo r.gauge else 0) =
      s.closedSum := by
  rw [Snapshot.closedSum, ← Table.total_partners (t := c.epochGauges)
    fun a : ClosedAllocation => (a.gauge, s.epoch)]
  · refine Table.total_congr fun r _ => ?_
    by_cases hepoch : r.epoch = s.epoch
    · simp [Keyed.key, hepoch, Snapshot.closedTo_eq_total]
    · simp [Keyed.key, hepoch, Table.total]
  · intro a ha hcounts
    exact h.epochGauge?_of_closed hs (Snapshot.closedTo_of_mem ha ▸ hcounts)

/-- The closed allocations of an epoch, gauge by gauge. -/
theorem total_closedOn (h : c.Consistent now) (epoch : Epoch) :
    (c.epochGauges.total fun r => if r.epoch = epoch then c.closedOn r.gauge epoch else 0) =
      c.closedIn epoch := by
  calc
    _ = c.epochGauges.total fun r => c.snapshots.total fun s =>
          if r.epoch = epoch ∧ s.epoch = epoch then s.closedTo r.gauge else 0 := by
      refine Table.total_congr fun r _ => ?_
      by_cases hepoch : r.epoch = epoch
      · simp [hepoch, closedOn]
      · simp [hepoch, Table.total]
    _ = c.snapshots.total fun s => c.epochGauges.total fun r =>
          if r.epoch = epoch ∧ s.epoch = epoch then s.closedTo r.gauge else 0 :=
      Table.total_comm ..
    _ = c.closedIn epoch := by
      refine Table.total_congr fun s hs => ?_
      by_cases hepoch : s.epoch = epoch
      · simp [← hepoch, ← h.total_closedTo hs]
      · simp [hepoch, Table.total]

/-- The power of the gauges of an epoch, allocation by allocation. -/
theorem powerIn_eq (h : c.Consistent now) (epoch : Epoch) :
    c.powerIn epoch = c.liveIn epoch + c.closedIn epoch := by
  rw [← h.total_liveOn, ← h.total_closedOn, ← Table.total_add]
  refine Table.total_congr fun r hr => ?_
  by_cases hepoch : r.epoch = epoch
  · have hpower := h.power_eq r.gauge r.epoch
    rw [power_of_epochGauge? (epochGauge?_of_mem hr), hepoch] at hpower
    simp [hepoch, hpower]
  · simp [hepoch]

/-- What the voters have allocated in an epoch, allocation by allocation. -/
theorem allocatedIn_eq (h : c.Consistent now) (epoch : Epoch) :
    c.allocatedIn epoch = c.liveIn epoch + c.closedIn epoch := by
  rw [← h.total_liveOf, closedIn, ← Table.total_add]
  refine Table.total_congr fun s hs => ?_
  by_cases hepoch : s.epoch = epoch
  · have hallocated := h.allocated_eq s.voter s.epoch
    have hfound := snapshot?_of_mem hs
    rw [allocated_of_snapshot? hfound, closedOf_of_snapshot? hfound, hepoch] at hallocated
    simp [hepoch, hallocated]
  · simp [hepoch]

end Consistent
end Commitments

/-! ## All links -/

/-- Every record finds the records that it refers to, and is of an epoch in which there can
be such a record. -/
structure Engine.Linked (e : Engine) : Prop where
  /-- A live vote counts, and its gauge, the gauge's record and the voter's snapshot are
  there. -/
  vote : ∀ x ∈ e.commitments.votes.records, x.allocatedPower ≠ 0 ∧
    (∃ g, e.registry.gauges.find? x.gauge = some g) ∧
    (∃ r, e.commitments.epochGauge? x.gauge x.epoch = some r) ∧
    ∃ s, e.commitments.snapshot? x.voter x.epoch = some s
  /-- A closed allocation counts, its epoch is over, the gauge's record is there, and the
  vote that it was is not. -/
  closed : ∀ s ∈ e.commitments.snapshots.records, ∀ a ∈ s.closedAllocations.records,
    a.amount ≠ 0 ∧ s.epoch < e.currentEpoch ∧
    (∃ r, e.commitments.epochGauge? a.gauge s.epoch = some r) ∧
    e.commitments.vote? s.voter a.gauge s.epoch = none
  /-- A snapshot shows allocated power exactly if there is an allocation. -/
  allocated_eq_zero_iff : ∀ s ∈ e.commitments.snapshots.records, s.allocatedPower = 0 ↔
    (∀ gauge, e.commitments.vote? s.voter gauge s.epoch = none) ∧
      s.closedAllocations.records = []
  /-- There are no records of epochs to come. -/
  epochGauge_le : ∀ r ∈ e.commitments.epochGauges.records, r.epoch ≤ e.currentEpoch
  snapshot_le : ∀ s ∈ e.commitments.snapshots.records, s.epoch ≤ e.currentEpoch
  vote_le : ∀ x ∈ e.commitments.votes.records, x.epoch ≤ e.currentEpoch
  /-- Only an epoch that is over has claims, clawbacks and closed power. -/
  flags_elapsed : ∀ s ∈ e.commitments.snapshots.records, s.feeClaims.records ≠ [] →
    s.epoch < e.currentEpoch
  claim_elapsed : ∀ k ∈ e.bribes.claims.records, k.epoch < e.currentEpoch
  clawback_elapsed : ∀ k ∈ e.bribes.clawbacks.records, k.epoch < e.currentEpoch
  gaugeClosed_elapsed : ∀ r ∈ e.commitments.epochGauges.records, r.closedPower ≠ 0 →
    r.epoch < e.currentEpoch
  voterClosed_elapsed : ∀ s ∈ e.commitments.snapshots.records, s.closedPower ≠ 0 →
    s.epoch < e.currentEpoch
  /-- The power of all gauges is what all voters have allocated. -/
  balanced : ∀ epoch, e.commitments.powerIn epoch = e.commitments.allocatedIn epoch

/-- Sound books are linked. -/
theorem Engine.Sound.linked {e : Engine} (h : e.Sound) (hmarked : e.commitments.Marked) :
    e.Linked where
  vote x hx := by
    have hconsistent := h.power.consistent
    obtain ⟨r, hr⟩ := hconsistent.epochGauge?_of_vote hx
    have hgauge := h.power.registered r (Table.mem_of_find? hr)
    rw [(Commitments.key_of_epochGauge? hr).1] at hgauge
    exact ⟨(hconsistent.votes x hx).allocated_ne_zero, hgauge, ⟨r, hr⟩,
      hconsistent.snapshot?_of_vote hx⟩
  closed s hs a ha := by
    have hconsistent := h.power.consistent
    have hpositive := (hconsistent.snapshots s hs).closed_pos a ha
    refine ⟨hpositive, hconsistent.elapsed_of_closed hs ha,
      hconsistent.epochGauge?_of_closed hs ?_, hconsistent.no_vote_of_closed hs ha⟩
    rw [Snapshot.closedTo_of_mem ha]
    exact fun hzero => hpositive (UInt64.toNat_inj.mp hzero)
  allocated_eq_zero_iff s hs := h.power.consistent.allocatedPower_eq_zero_iff hs
  epochGauge_le := h.power.consistent.gauges
  snapshot_le s hs := (h.power.consistent.snapshots s hs).epoch_le
  vote_le x hx := (h.power.consistent.votes x hx).epoch_le
  flags_elapsed s hs hne := by
    obtain ⟨f, hf⟩ := List.exists_mem_of_ne_nil _ hne
    obtain ⟨side, hflag⟩ := (hmarked s hs).feeClaimed hf
    exact (h.fees.flags s hs f.gauge side hflag).1
  claim_elapsed k hk := by
    obtain ⟨b, -, hsound⟩ := h.bribes.claims k hk
    exact hsound.elapsed
  clawback_elapsed k hk := by
    obtain ⟨b, -, hsound⟩ := h.bribes.clawbacks k hk
    exact hsound.elapsed
  gaugeClosed_elapsed r hr hne := by
    by_contra hlive
    have hclosed := h.power.consistent.closedPower_eq r.gauge r.epoch
    rw [Commitments.closedPower_of_epochGauge? (Commitments.epochGauge?_of_mem hr),
      (h.power.consistent.closed_of_not_elapsed hlive).2] at hclosed
    exact hne (UInt64.toNat_inj.mp hclosed)
  voterClosed_elapsed s hs hne := by
    by_contra hlive
    have hsound := h.power.consistent.snapshots s hs
    have hclosed := hsound.closed_eq
    rw [Snapshot.closedSum_of_empty (hsound.closed_elapsed hlive)] at hclosed
    exact hne (UInt64.toNat_inj.mp hclosed)
  balanced epoch := by
    rw [h.power.consistent.powerIn_eq, h.power.consistent.allocatedIn_eq]

namespace Deployment

variable {foreman : Address} {params : FactoryParams} {maxLockSecs : UInt64} {d : Deployment}

/-- After every run from a new deployment the records are linked. -/
theorem records_linked_along_run (hcreate : create foreman params maxLockSecs = .ok d)
    (run : List Operation) : (d.afterAll run).engine.Linked :=
  (sound_afterAll hcreate run).linked (marked_afterAll hcreate run)

theorem records_linked_along_sample :
    (Sample.deployment.afterAll Sample.run).engine.Linked :=
  records_linked_along_run Sample.create_deployment Sample.run

end Deployment
end EpochVoting
