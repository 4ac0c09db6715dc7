import EpochVoting.Proofs.Checks
import EpochVoting.Proofs.TableSum

/-!
# Power in the records of an epoch

Committed power is recorded three times: on the gauge's record of the epoch, on the
voter's snapshot, and in the single allocations, which are live votes or closed
allocations on a snapshot.  This file names these numbers and says how each of them
moves when one record is written.
-/

namespace EpochVoting

namespace Snapshot

/-- The closed allocation to a gauge; zero if there is none. -/
def closedTo (s : Snapshot) (gauge : Address) : Nat :=
  (s.closedAllocation? gauge).elim 0 UInt64.toNat

/-- The sum of the closed allocations. -/
def closedSum (s : Snapshot) : Nat :=
  s.closedAllocations.total fun a => a.amount.toNat

theorem closedTo_of_empty {s : Snapshot} (h : s.closedAllocations = Table.empty)
    (gauge : Address) : s.closedTo gauge = 0 := by
  unfold closedTo closedAllocation?
  rw [h]
  rfl

theorem closedSum_of_empty {s : Snapshot} (h : s.closedAllocations = Table.empty) :
    s.closedSum = 0 := by
  unfold closedSum
  rw [h]
  rfl

end Snapshot

namespace Commitments

variable {c c' : Commitments}

/-- The live allocations to a gauge in an epoch. -/
def liveOn (c : Commitments) (gauge : Address) (epoch : Epoch) : Nat :=
  c.votes.total fun x =>
    if x.gauge = gauge ∧ x.epoch = epoch then x.allocatedPower.toNat else 0

/-- The live allocations of a voter in an epoch. -/
def liveOf (c : Commitments) (voter : Address) (epoch : Epoch) : Nat :=
  c.votes.total fun x =>
    if x.voter = voter ∧ x.epoch = epoch then x.allocatedPower.toNat else 0

/-- The closed allocations to a gauge in an epoch. -/
def closedOn (c : Commitments) (gauge : Address) (epoch : Epoch) : Nat :=
  c.snapshots.total fun s => if s.epoch = epoch then s.closedTo gauge else 0

/-- The closed allocations of a voter in an epoch. -/
def closedOf (c : Commitments) (voter : Address) (epoch : Epoch) : Nat :=
  (c.snapshot? voter epoch).elim 0 Snapshot.closedSum

/-- The power recorded for a gauge in an epoch; zero without a record. -/
def power (c : Commitments) (gauge : Address) (epoch : Epoch) : Nat :=
  (c.epochGauge? gauge epoch).elim 0 fun r => r.totalPower.toNat

/-- The closed power recorded for a gauge in an epoch; zero without a record. -/
def closedPower (c : Commitments) (gauge : Address) (epoch : Epoch) : Nat :=
  (c.epochGauge? gauge epoch).elim 0 fun r => r.closedPower.toNat

/-- The power recorded as allocated by a voter in an epoch; zero without a snapshot. -/
def allocated (c : Commitments) (voter : Address) (epoch : Epoch) : Nat :=
  (c.snapshot? voter epoch).elim 0 fun s => s.allocatedPower.toNat

/-! ## Records found under their keys -/

theorem key_of_epochGauge? {gauge : Address} {epoch : Epoch} {r : EpochGauge}
    (h : c.epochGauge? gauge epoch = some r) : r.gauge = gauge ∧ r.epoch = epoch :=
  Prod.mk.inj (Table.key_of_find? h)

theorem key_of_snapshot? {voter : Address} {epoch : Epoch} {s : Snapshot}
    (h : c.snapshot? voter epoch = some s) : s.voter = voter ∧ s.epoch = epoch :=
  Prod.mk.inj (Table.key_of_find? h)

theorem key_of_vote? {voter gauge : Address} {epoch : Epoch} {x : EpochVote}
    (h : c.vote? voter gauge epoch = some x) :
    x.voter = voter ∧ x.gauge = gauge ∧ x.epoch = epoch := by
  have hkey := Prod.mk.inj (Table.key_of_find? h)
  exact ⟨hkey.1, Prod.mk.inj hkey.2⟩

theorem snapshot?_of_mem {s : Snapshot} (h : s ∈ c.snapshots.records) :
    c.snapshot? s.voter s.epoch = some s :=
  Table.find?_key_of_mem h

theorem epochGauge?_of_mem {r : EpochGauge} (h : r ∈ c.epochGauges.records) :
    c.epochGauge? r.gauge r.epoch = some r :=
  Table.find?_key_of_mem h

/-- A snapshot that was found is found under its own voter and epoch. -/
theorem snapshot?_self {voter : Address} {epoch : Epoch} {s : Snapshot}
    (h : c.snapshot? voter epoch = some s) : c.snapshot? s.voter s.epoch = some s :=
  snapshot?_of_mem (Table.mem_of_find? h)

theorem epochGauge?_self {gauge : Address} {epoch : Epoch} {r : EpochGauge}
    (h : c.epochGauge? gauge epoch = some r) : c.epochGauge? r.gauge r.epoch = some r :=
  epochGauge?_of_mem (Table.mem_of_find? h)

theorem epochGauge?_insert {r : EpochGauge} (h : c'.epochGauges = c.epochGauges.insert r)
    (gauge : Address) (epoch : Epoch) :
    c'.epochGauge? gauge epoch =
      if r.gauge = gauge ∧ r.epoch = epoch then some r else c.epochGauge? gauge epoch := by
  unfold epochGauge?
  rw [h, Table.find?_insert_ite]
  simp only [Keyed.key, Prod.mk.injEq]

theorem epochGauge?_erase {g : Address} {e : Epoch}
    (h : c'.epochGauges = c.epochGauges.erase (g, e)) (gauge : Address) (epoch : Epoch) :
    c'.epochGauge? gauge epoch =
      if g = gauge ∧ e = epoch then none else c.epochGauge? gauge epoch := by
  unfold epochGauge?
  rw [h, Table.find?_erase_ite]
  simp only [Prod.mk.injEq]

theorem snapshot?_insert {s : Snapshot} (h : c'.snapshots = c.snapshots.insert s)
    (voter : Address) (epoch : Epoch) :
    c'.snapshot? voter epoch =
      if s.voter = voter ∧ s.epoch = epoch then some s else c.snapshot? voter epoch := by
  unfold snapshot?
  rw [h, Table.find?_insert_ite]
  simp only [Keyed.key, Prod.mk.injEq]

/-- What a snapshot says that was replaced by one that says the same. -/
theorem snapshot?_map_insert {β : Type} (f : Snapshot → β) {s s' : Snapshot}
    (h : c'.snapshots = c.snapshots.insert s') (hs : c.snapshot? s'.voter s'.epoch = some s)
    (hsame : f s' = f s) (voter : Address) (epoch : Epoch) :
    (c'.snapshot? voter epoch).map f = (c.snapshot? voter epoch).map f := by
  rw [snapshot?_insert h]
  by_cases hkey : s'.voter = voter ∧ s'.epoch = epoch
  · obtain ⟨rfl, rfl⟩ := hkey
    rw [if_pos ⟨rfl, rfl⟩, hs, Option.map_some, Option.map_some, hsame]
  · rw [if_neg hkey]

theorem vote?_insert {x : EpochVote} (h : c'.votes = c.votes.insert x)
    (voter gauge : Address) (epoch : Epoch) :
    c'.vote? voter gauge epoch =
      if x.voter = voter ∧ x.gauge = gauge ∧ x.epoch = epoch then some x
      else c.vote? voter gauge epoch := by
  unfold vote?
  rw [h, Table.find?_insert_ite]
  simp only [Keyed.key, Prod.mk.injEq]

theorem vote?_erase {v g : Address} {e : Epoch} (h : c'.votes = c.votes.erase (v, g, e))
    (voter gauge : Address) (epoch : Epoch) :
    c'.vote? voter gauge epoch =
      if v = voter ∧ g = gauge ∧ e = epoch then none else c.vote? voter gauge epoch := by
  unfold vote?
  rw [h, Table.find?_erase_ite]
  simp only [Prod.mk.injEq]

/-! ## Numbers of one record -/

theorem power_of_epochGauge? {gauge : Address} {epoch : Epoch} {r : EpochGauge}
    (h : c.epochGauge? gauge epoch = some r) : c.power gauge epoch = r.totalPower.toNat := by
  unfold power
  rw [h]
  rfl

theorem closedPower_of_epochGauge? {gauge : Address} {epoch : Epoch} {r : EpochGauge}
    (h : c.epochGauge? gauge epoch = some r) :
    c.closedPower gauge epoch = r.closedPower.toNat := by
  unfold closedPower
  rw [h]
  rfl

theorem allocated_of_snapshot? {voter : Address} {epoch : Epoch} {s : Snapshot}
    (h : c.snapshot? voter epoch = some s) :
    c.allocated voter epoch = s.allocatedPower.toNat := by
  unfold allocated
  rw [h]
  rfl

theorem closedOf_of_snapshot? {voter : Address} {epoch : Epoch} {s : Snapshot}
    (h : c.snapshot? voter epoch = some s) : c.closedOf voter epoch = s.closedSum := by
  unfold closedOf
  rw [h]
  rfl

/-- Recorded power is an amount. -/
theorem power_lt (c : Commitments) (gauge : Address) (epoch : Epoch) :
    c.power gauge epoch < 2 ^ 64 := by
  unfold power
  cases c.epochGauge? gauge epoch with
  | none => exact Nat.two_pow_pos 64
  | some r => exact r.totalPower.toNat_lt

theorem allocated_lt (c : Commitments) (voter : Address) (epoch : Epoch) :
    c.allocated voter epoch < 2 ^ 64 := by
  unfold allocated
  cases c.snapshot? voter epoch with
  | none => exact Nat.two_pow_pos 64
  | some s => exact s.allocatedPower.toNat_lt

/-- A gauge with power in an epoch has a record of it. -/
theorem epochGauge?_of_power_ne_zero {gauge : Address} {epoch : Epoch}
    (h : c.power gauge epoch ≠ 0) : ∃ r, c.epochGauge? gauge epoch = some r := by
  unfold power at h
  cases hr : c.epochGauge? gauge epoch with
  | none =>
    rw [hr] at h
    exact absurd rfl h
  | some r => exact ⟨r, rfl⟩

/-! ## Sums after a write -/

theorem power_insert {r : EpochGauge} (h : c'.epochGauges = c.epochGauges.insert r)
    (gauge : Address) (epoch : Epoch) :
    c'.power gauge epoch =
      if r.gauge = gauge ∧ r.epoch = epoch then r.totalPower.toNat
      else c.power gauge epoch := by
  unfold power
  rw [epochGauge?_insert h]
  split <;> rfl

theorem closedPower_insert {r : EpochGauge} (h : c'.epochGauges = c.epochGauges.insert r)
    (gauge : Address) (epoch : Epoch) :
    c'.closedPower gauge epoch =
      if r.gauge = gauge ∧ r.epoch = epoch then r.closedPower.toNat
      else c.closedPower gauge epoch := by
  unfold closedPower
  rw [epochGauge?_insert h]
  split <;> rfl

theorem allocated_insert {s : Snapshot} (h : c'.snapshots = c.snapshots.insert s)
    (voter : Address) (epoch : Epoch) :
    c'.allocated voter epoch =
      if s.voter = voter ∧ s.epoch = epoch then s.allocatedPower.toNat
      else c.allocated voter epoch := by
  unfold allocated
  rw [snapshot?_insert h]
  split <;> rfl

theorem closedOf_insert {s : Snapshot} (h : c'.snapshots = c.snapshots.insert s)
    (voter : Address) (epoch : Epoch) :
    c'.closedOf voter epoch =
      if s.voter = voter ∧ s.epoch = epoch then s.closedSum else c.closedOf voter epoch := by
  unfold closedOf
  rw [snapshot?_insert h]
  split <;> rfl

/-- Replacing a record moves the power of the gauge by what moved on it. -/
theorem power_replace {r old : EpochGauge} (h : c'.epochGauges = c.epochGauges.insert r)
    (hold : c.epochGauge? r.gauge r.epoch = some old) (gauge : Address) (epoch : Epoch) :
    c'.power gauge epoch +
        (if r.gauge = gauge ∧ r.epoch = epoch then old.totalPower.toNat else 0) =
      c.power gauge epoch +
        if r.gauge = gauge ∧ r.epoch = epoch then r.totalPower.toNat else 0 := by
  have hmove := Table.elim_insert_of_some (fun r => r.totalPower.toNat) hold (gauge, epoch)
  simp only [Keyed.key, Prod.mk.injEq] at hmove
  unfold power epochGauge?
  rw [h]
  exact hmove

theorem closedPower_replace {r old : EpochGauge} (h : c'.epochGauges = c.epochGauges.insert r)
    (hold : c.epochGauge? r.gauge r.epoch = some old) (gauge : Address) (epoch : Epoch) :
    c'.closedPower gauge epoch +
        (if r.gauge = gauge ∧ r.epoch = epoch then old.closedPower.toNat else 0) =
      c.closedPower gauge epoch +
        if r.gauge = gauge ∧ r.epoch = epoch then r.closedPower.toNat else 0 := by
  have hmove := Table.elim_insert_of_some (fun r => r.closedPower.toNat) hold (gauge, epoch)
  simp only [Keyed.key, Prod.mk.injEq] at hmove
  unfold closedPower epochGauge?
  rw [h]
  exact hmove

/-- Replacing a snapshot moves the voter's allocated power by what moved on it. -/
theorem allocated_replace {s old : Snapshot} (h : c'.snapshots = c.snapshots.insert s)
    (hold : c.snapshot? s.voter s.epoch = some old) (voter : Address) (epoch : Epoch) :
    c'.allocated voter epoch +
        (if s.voter = voter ∧ s.epoch = epoch then old.allocatedPower.toNat else 0) =
      c.allocated voter epoch +
        if s.voter = voter ∧ s.epoch = epoch then s.allocatedPower.toNat else 0 := by
  have hmove := Table.elim_insert_of_some (fun s => s.allocatedPower.toNat) hold (voter, epoch)
  simp only [Keyed.key, Prod.mk.injEq] at hmove
  unfold allocated snapshot?
  rw [h]
  exact hmove

theorem closedOf_replace {s old : Snapshot} (h : c'.snapshots = c.snapshots.insert s)
    (hold : c.snapshot? s.voter s.epoch = some old) (voter : Address) (epoch : Epoch) :
    c'.closedOf voter epoch +
        (if s.voter = voter ∧ s.epoch = epoch then old.closedSum else 0) =
      c.closedOf voter epoch +
        if s.voter = voter ∧ s.epoch = epoch then s.closedSum else 0 := by
  have hmove := Table.elim_insert_of_some (fun s => s.closedSum) hold (voter, epoch)
  simp only [Keyed.key, Prod.mk.injEq] at hmove
  unfold closedOf snapshot?
  rw [h]
  exact hmove

theorem liveOn_insert {x : EpochVote} (h : c'.votes = c.votes.insert x)
    (hnone : c.vote? x.voter x.gauge x.epoch = none) (gauge : Address) (epoch : Epoch) :
    c'.liveOn gauge epoch = c.liveOn gauge epoch +
      if x.gauge = gauge ∧ x.epoch = epoch then x.allocatedPower.toNat else 0 := by
  unfold liveOn
  rw [h]
  exact Table.total_insert_of_none _ hnone

theorem liveOf_insert {x : EpochVote} (h : c'.votes = c.votes.insert x)
    (hnone : c.vote? x.voter x.gauge x.epoch = none) (voter : Address) (epoch : Epoch) :
    c'.liveOf voter epoch = c.liveOf voter epoch +
      if x.voter = voter ∧ x.epoch = epoch then x.allocatedPower.toNat else 0 := by
  unfold liveOf
  rw [h]
  exact Table.total_insert_of_none _ hnone

theorem liveOn_erase {v g : Address} {e : Epoch} {x : EpochVote}
    (h : c'.votes = c.votes.erase (v, g, e)) (hvote : c.vote? v g e = some x)
    (gauge : Address) (epoch : Epoch) :
    c'.liveOn gauge epoch +
        (if g = gauge ∧ e = epoch then x.allocatedPower.toNat else 0) =
      c.liveOn gauge epoch := by
  obtain ⟨-, rfl, rfl⟩ := key_of_vote? hvote
  unfold liveOn
  rw [h]
  exact Table.total_erase_of_some _ hvote

theorem liveOf_erase {v g : Address} {e : Epoch} {x : EpochVote}
    (h : c'.votes = c.votes.erase (v, g, e)) (hvote : c.vote? v g e = some x)
    (voter : Address) (epoch : Epoch) :
    c'.liveOf voter epoch +
        (if v = voter ∧ e = epoch then x.allocatedPower.toNat else 0) =
      c.liveOf voter epoch := by
  obtain ⟨rfl, -, rfl⟩ := key_of_vote? hvote
  unfold liveOf
  rw [h]
  exact Table.total_erase_of_some _ hvote

/-- Replacing a snapshot moves the closed power of a gauge by what moved on it. -/
theorem closedOn_replace {s old : Snapshot} (h : c'.snapshots = c.snapshots.insert s)
    (hold : c.snapshot? s.voter s.epoch = some old) (gauge : Address) (epoch : Epoch) :
    c'.closedOn gauge epoch + (if s.epoch = epoch then old.closedTo gauge else 0) =
      c.closedOn gauge epoch + if s.epoch = epoch then s.closedTo gauge else 0 := by
  have hepoch := (key_of_snapshot? hold).2
  unfold closedOn
  rw [h, ← Table.total_insert_of_some _ hold, hepoch]

/-- Replacing a snapshot by one with the same closed allocations moves no closed
power. -/
theorem closedOn_replace_same {s old : Snapshot} (h : c'.snapshots = c.snapshots.insert s)
    (hold : c.snapshot? s.voter s.epoch = some old)
    (hsame : s.closedAllocations = old.closedAllocations) (gauge : Address)
    (epoch : Epoch) : c'.closedOn gauge epoch = c.closedOn gauge epoch := by
  have hmove := closedOn_replace h hold gauge epoch
  have hto : s.closedTo gauge = old.closedTo gauge := by
    unfold Snapshot.closedTo Snapshot.closedAllocation?
    rw [hsame]
  rw [hto] at hmove
  omega

/-- A new snapshot without closed allocations moves no closed power. -/
theorem closedOn_new {s : Snapshot} (h : c'.snapshots = c.snapshots.insert s)
    (hnone : c.snapshot? s.voter s.epoch = none)
    (hempty : s.closedAllocations = Table.empty) (gauge : Address) (epoch : Epoch) :
    c'.closedOn gauge epoch = c.closedOn gauge epoch := by
  unfold closedOn
  rw [h, Table.total_insert_of_none _ hnone, Snapshot.closedTo_of_empty hempty, ite_self,
    Nat.add_zero]

theorem liveOn_congr (h : c'.votes = c.votes) (gauge : Address) (epoch : Epoch) :
    c'.liveOn gauge epoch = c.liveOn gauge epoch := by
  unfold liveOn
  rw [h]

theorem liveOf_congr (h : c'.votes = c.votes) (voter : Address) (epoch : Epoch) :
    c'.liveOf voter epoch = c.liveOf voter epoch := by
  unfold liveOf
  rw [h]

theorem power_congr (h : c'.epochGauges = c.epochGauges) (gauge : Address) (epoch : Epoch) :
    c'.power gauge epoch = c.power gauge epoch := by
  unfold power epochGauge?
  rw [h]

theorem closedPower_congr (h : c'.epochGauges = c.epochGauges) (gauge : Address)
    (epoch : Epoch) : c'.closedPower gauge epoch = c.closedPower gauge epoch := by
  unfold closedPower epochGauge?
  rw [h]

theorem closedOn_congr (h : c'.snapshots = c.snapshots) (gauge : Address) (epoch : Epoch) :
    c'.closedOn gauge epoch = c.closedOn gauge epoch := by
  unfold closedOn
  rw [h]

theorem allocated_congr (h : c'.snapshots = c.snapshots) (voter : Address) (epoch : Epoch) :
    c'.allocated voter epoch = c.allocated voter epoch := by
  unfold allocated snapshot?
  rw [h]

theorem closedOf_congr (h : c'.snapshots = c.snapshots) (voter : Address) (epoch : Epoch) :
    c'.closedOf voter epoch = c.closedOf voter epoch := by
  unfold closedOf snapshot?
  rw [h]

end Commitments
end EpochVoting
