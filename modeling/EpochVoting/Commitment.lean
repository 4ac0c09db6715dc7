import EpochVoting.Weights

/-!
# Commitments of an epoch

Three kinds of records belong to an epoch: a gauge's record with the power
committed to it and the fees it earned, a voter's snapshot with the power there
is to commit, and one record for each commitment.  A commitment raises the
gauge's total and the voter's total by the same amount, and taking it back lowers
both.  Closing the record of an elapsed epoch keeps both totals and leaves the
amount on the snapshot, where claims find it.

Whether an epoch is live or over is for the caller to check.
-/

namespace EpochVoting

/-- A gauge's record of an epoch. -/
structure EpochGauge where
  gauge : Address
  epoch : Epoch
  /-- Sum of the allocations committed and not taken back. -/
  totalPower : UInt64
  /-- The part of `totalPower` whose commitments have been closed. -/
  closedPower : UInt64
  /-- Fees the gauge earned in this epoch. -/
  accruedFees : PerSide UInt64
deriving DecidableEq

/-- Which sides' fees of a gauge a snapshot's voter has claimed. -/
structure FeeClaimFlags where
  gauge : Address
  claimed : PerSide Bool
deriving DecidableEq

/-- The allocation of a closed commitment. -/
structure ClosedAllocation where
  gauge : Address
  amount : UInt64
deriving DecidableEq

/-- Flags are filed under their gauge. -/
instance : Keyed FeeClaimFlags Address := ⟨FeeClaimFlags.gauge⟩

/-- A closed allocation is filed under its gauge. -/
instance : Keyed ClosedAllocation Address := ⟨ClosedAllocation.gauge⟩

/-- A voter's record of an epoch. -/
structure Snapshot where
  voter : Address
  epoch : Epoch
  votingPower : UInt64
  /-- The sequence number of the weights the snapshot was taken under. -/
  weightChangeSeqno : UInt64
  /-- Sum of the voter's allocations. -/
  allocatedPower : UInt64
  /-- The part of `allocatedPower` whose commitments have been closed. -/
  closedPower : UInt64
  feeClaims : Table FeeClaimFlags
  closedAllocations : Table ClosedAllocation
deriving DecidableEq

/-- One commitment of a voter's power to a gauge. -/
structure EpochVote where
  voter : Address
  gauge : Address
  epoch : Epoch
  allocatedPower : UInt64
deriving DecidableEq

/-- A gauge's record is filed under the gauge and the epoch. -/
instance : Keyed EpochGauge (Address × Epoch) := ⟨fun g => (g.gauge, g.epoch)⟩

/-- A snapshot is filed under the voter and the epoch. -/
instance : Keyed Snapshot (Address × Epoch) := ⟨fun s => (s.voter, s.epoch)⟩

/-- A commitment is filed under the voter, the gauge and the epoch. -/
instance : Keyed EpochVote (Address × Address × Epoch) :=
  ⟨fun v => (v.voter, v.gauge, v.epoch)⟩

instance : Std.TransOrd (Address × Address × Epoch) :=
  inferInstance

instance : Std.LawfulEqOrd (Address × Address × Epoch) :=
  inferInstance

/-- What a call to commit did. -/
inductive CommitOutcome where
  | committed (allocated : UInt64)
  /-- The weight on the gauge rounds to no power; there is no record. -/
  | nothingToCommit
deriving DecidableEq

namespace EpochGauge

/-- A record without power. -/
def fresh (gauge : Address) (epoch : Epoch) (accruedFees : PerSide UInt64) : EpochGauge where
  gauge := gauge
  epoch := epoch
  totalPower := 0
  closedPower := 0
  accruedFees := accruedFees

/-- The fees of a side. -/
def accruedFee (g : EpochGauge) (side : FeeSide) : UInt64 :=
  g.accruedFees.get side

end EpochGauge

namespace Snapshot

/-- A snapshot from which nothing is committed. -/
def fresh (voter : Address) (epoch : Epoch) (power seqno : UInt64) : Snapshot where
  voter := voter
  epoch := epoch
  votingPower := power
  weightChangeSeqno := seqno
  allocatedPower := 0
  closedPower := 0
  feeClaims := Table.empty
  closedAllocations := Table.empty

/-- The flags of both sides of a gauge. -/
def flags (s : Snapshot) (gauge : Address) : PerSide Bool :=
  ((s.feeClaims.find? gauge).map FeeClaimFlags.claimed).getD (PerSide.both false)

/-- Whether the voter has claimed a side's fees of a gauge. -/
def feeClaimed (s : Snapshot) (gauge : Address) (side : FeeSide) : Bool :=
  (s.flags gauge).get side

/-- The snapshot with a side's fees of a gauge marked as claimed. -/
def markFeeClaimed (s : Snapshot) (gauge : Address) (side : FeeSide) : Snapshot :=
  { s with feeClaims := s.feeClaims.insert ⟨gauge, (s.flags gauge).set side true⟩ }

/-- The closed allocation to a gauge. -/
def closedAllocation? (s : Snapshot) (gauge : Address) : Option UInt64 :=
  (s.closedAllocations.find? gauge).map ClosedAllocation.amount

end Snapshot

/-- The records of all epochs. -/
structure Commitments where
  epochGauges : Table EpochGauge
  snapshots : Table Snapshot
  votes : Table EpochVote
deriving DecidableEq

namespace Commitments

/-- No records. -/
def empty : Commitments := ⟨Table.empty, Table.empty, Table.empty⟩

/-- A gauge's record of an epoch. -/
def epochGauge? (c : Commitments) (gauge : Address) (epoch : Epoch) : Option EpochGauge :=
  c.epochGauges.find? (gauge, epoch)

/-- A voter's snapshot of an epoch. -/
def snapshot? (c : Commitments) (voter : Address) (epoch : Epoch) : Option Snapshot :=
  c.snapshots.find? (voter, epoch)

/-- A live commitment. -/
def vote? (c : Commitments) (voter gauge : Address) (epoch : Epoch) : Option EpochVote :=
  c.votes.find? (voter, gauge, epoch)

/-- A gauge's record of an epoch, which must exist. -/
def epochGauge (c : Commitments) (gauge : Address) (epoch : Epoch) :
    Except VotingError EpochGauge :=
  demand (.epochGaugeNotFound gauge epoch) (c.epochGauge? gauge epoch)

/-- A voter's snapshot of an epoch, which must exist. -/
def snapshot (c : Commitments) (voter : Address) (epoch : Epoch) :
    Except VotingError Snapshot :=
  demand (.epochVoterNotFound voter epoch) (c.snapshot? voter epoch)

/-- What a voter has allocated to a gauge in an epoch, whether the commitment is
live or closed. -/
def allocation? (c : Commitments) (voter gauge : Address) (epoch : Epoch) :
    Option UInt64 :=
  match c.vote? voter gauge epoch with
  | some vote => some vote.allocatedPower
  | none => (c.snapshot? voter epoch).bind fun s => s.closedAllocation? gauge

/-- Takes a snapshot unless there is one; tells whether it was taken. -/
def takeSnapshot (c : Commitments) (voter : Address) (epoch : Epoch)
    (power seqno : UInt64) : Bool × Commitments :=
  if (c.snapshot? voter epoch).isSome then
    (false, c)
  else
    (true, { c with snapshots := c.snapshots.insert (.fresh voter epoch power seqno) })

/-- Takes an existing snapshot anew, as long as nothing is committed from it. -/
def resetSnapshot (c : Commitments) (voter : Address) (epoch : Epoch)
    (power seqno : UInt64) : Except VotingError Commitments := do
  let s ← c.snapshot voter epoch
  require (s.allocatedPower == 0) (.mustWithdrawFirst s.allocatedPower)
  return { c with
    snapshots := c.snapshots.insert
      { s with votingPower := power, weightChangeSeqno := seqno } }

/-- Creates a gauge's record unless there is one; tells whether it was created. -/
def createEpochGauge (c : Commitments) (gauge : Address) (epoch : Epoch)
    (accruedFees : PerSide UInt64) : Bool × Commitments :=
  if (c.epochGauge? gauge epoch).isSome then
    (false, c)
  else
    (true, { c with epochGauges := c.epochGauges.insert (.fresh gauge epoch accruedFees) })

/-- Commits the part `weight / totalWeight` of the snapshot's power to a gauge.  A
snapshot taken under other weights than those of `seqno` is refused. -/
def commit (c : Commitments) (voter : Address) (gauge : Gauge) (epoch : Epoch)
    (weight : UInt32) (totalWeight seqno : UInt64) :
    Except VotingError (CommitOutcome × Commitments) := do
  require (c.vote? voter gauge.target epoch).isNone
    (.alreadyCommitted voter gauge.target epoch)
  gauge.requireEnabled
  let s ← c.snapshot voter epoch
  require (s.weightChangeSeqno == seqno) (.staleWeights s.weightChangeSeqno seqno)
  let g ← c.epochGauge gauge.target epoch
  let allocated ← demand .castFailed
    (Amount.share? s.votingPower weight.toUInt64 totalWeight)
  if allocated = 0 then
    return (.nothingToCommit, c)
  else
    let gaugeTotal ← demand .overflow (Amount.add? g.totalPower allocated)
    let voterTotal ← demand .overflow (Amount.add? s.allocatedPower allocated)
    return (.committed allocated, {
      epochGauges := c.epochGauges.insert { g with totalPower := gaugeTotal }
      snapshots := c.snapshots.insert { s with allocatedPower := voterTotal }
      votes := c.votes.insert
        { voter, gauge := gauge.target, epoch, allocatedPower := allocated } })

/-- Takes a commitment back; answers with the power released. -/
def revert (c : Commitments) (voter gauge : Address) (epoch : Epoch) :
    Except VotingError (UInt64 × Commitments) := do
  let vote ← demand (.notCommitted voter gauge epoch) (c.vote? voter gauge epoch)
  let g ← c.epochGauge gauge epoch
  let s ← c.snapshot voter epoch
  let gaugeTotal ← demand .overflow (Amount.sub? g.totalPower vote.allocatedPower)
  let voterTotal ← demand .overflow (Amount.sub? s.allocatedPower vote.allocatedPower)
  return (vote.allocatedPower, {
    epochGauges := c.epochGauges.insert { g with totalPower := gaugeTotal }
    snapshots := c.snapshots.insert { s with allocatedPower := voterTotal }
    votes := c.votes.erase (voter, gauge, epoch) })

/-- Removes the record of a commitment.  The totals stay, and the allocation moves
to the snapshot.  The vote is taken out last; as it was found at the start, that
step is never refused (`close_eq_alreadyClosed_iff`). -/
def close (c : Commitments) (voter gauge : Address) (epoch : Epoch) :
    Except VotingError (EpochVote × Commitments) := do
  let vote ← demand .alreadyClosed (c.vote? voter gauge epoch)
  let g ← c.epochGauge gauge epoch
  let s ← c.snapshot voter epoch
  let gaugeClosed ← demand .overflow (Amount.add? g.closedPower vote.allocatedPower)
  let voterClosed ← demand .overflow (Amount.add? s.closedPower vote.allocatedPower)
  let (removed, votes) ← demand .alreadyClosed (c.votes.take? (voter, gauge, epoch))
  return (removed, {
    epochGauges := c.epochGauges.insert { g with closedPower := gaugeClosed }
    snapshots := c.snapshots.insert { s with
      closedPower := voterClosed
      closedAllocations := s.closedAllocations.insert ⟨gauge, vote.allocatedPower⟩ }
    votes })

/-- Removes a gauge's record that nobody has committed to.  Taking it out is never
refused once it was found (`removeEmptyEpochGauge_eq_notFound_iff`). -/
def removeEmptyEpochGauge (c : Commitments) (gauge : Address) (epoch : Epoch) :
    Except VotingError (EpochGauge × Commitments) := do
  let g ← c.epochGauge gauge epoch
  require (g.totalPower == 0) (.notEmpty g.totalPower)
  let (removed, epochGauges) ←
    demand (.epochGaugeNotFound gauge epoch) (c.epochGauges.take? (gauge, epoch))
  return (removed, { c with epochGauges })

/-- Changes a voter's snapshot, which must exist. -/
def updateSnapshot (c : Commitments) (voter : Address) (epoch : Epoch)
    (change : Snapshot → Snapshot) : Except VotingError Commitments := do
  let s ← c.snapshot voter epoch
  return { c with snapshots := c.snapshots.insert (change s) }

end Commitments
end EpochVoting
