import EpochVoting.Bribe
import EpochVoting.Escrow
import EpochVoting.Factory
import EpochVoting.Fees

/-!
# The engine

The engine holds all records of a deployment.  The calls of this module change
one component of it each, after all their checks, so a refused call has no result
but its error.  Voting power and the right to act for a voter come from the
escrow that the caller passes in.
-/

namespace EpochVoting

/-- All records of a deployment. -/
structure Engine where
  factory : Factory
  registry : Registry
  weights : WeightBook
  commitments : Commitments
  bribes : BribeLedger
deriving DecidableEq

namespace Engine

/-- An engine in its first epoch, without gauges. -/
def create (foreman : Address) (params : FactoryParams) : Except VotingError Engine := do
  let factory ← Factory.create foreman params
  return {
    factory
    registry := Registry.empty
    weights := WeightBook.empty
    commitments := Commitments.empty
    bribes := BribeLedger.empty }

/-- The epoch being voted on. -/
def currentEpoch (e : Engine) : Epoch :=
  e.factory.currentEpoch

/-! ## Clock and administration -/

/-- Moves to the next epoch once it is due.  Anyone may call. -/
def advanceEpoch (e : Engine) (now : Timestamp) : Except VotingError (Epoch × Engine) := do
  let factory ← e.factory.advance now
  return (factory.currentEpoch, { e with factory })

/-- Hands the administration to another account. -/
def setForeman (e : Engine) (authority newForeman : Address) : Except VotingError Engine := do
  let factory ← e.factory.setForeman authority newForeman
  return { e with factory }

/-- Changes the duration of the epochs to come. -/
def setEpochDuration (e : Engine) (authority : Address) (secs : UInt64) :
    Except VotingError Engine := do
  let factory ← e.factory.setEpochDuration authority secs
  return { e with factory }

/-! ## Gauges -/

/-- Registers a gauge, disabled.  Anyone may call. -/
def createGauge (e : Engine) (target : Address) (mints : PerSide Address)
    (poolTotals : PerSide UInt64) : Except VotingError Engine := do
  let (_, registry) ← e.registry.create target mints poolTotals
  return { e with registry }

/-- Enables or disables a gauge; only the foreman may.  Tells whether the flag
changed. -/
def setGaugeEnabled (e : Engine) (authority target : Address) (enabled : Bool) :
    Except VotingError (Bool × Engine) := do
  e.factory.requireForeman authority
  let (changed, registry) ← e.registry.setEnabled target enabled
  return (changed, { e with registry })

/-! ## Weights -/

/-- Sets a voter's weight on a gauge; the lock's owner and delegate may. -/
def setVote (e : Engine) (escrow : Escrow) (authority voter gauge : Address)
    (weight : UInt32) : Except VotingError (VoteChange × Engine) := do
  let lock ← escrow.lock voter
  require (lock.canSetVotes authority) (.notDelegate voter)
  let g ← e.registry.get gauge
  let (change, weights) ← e.weights.setVote voter g weight
  return (change, { e with weights })

/-! ## Commitments -/

/-- Takes the voter's snapshot of the current epoch unless there is one; tells
whether it was taken.  Anyone may call. -/
def takeSnapshot (e : Engine) (escrow : Escrow) (now : Timestamp) (voter : Address) :
    Except VotingError (Bool × Engine) :=
  if (e.commitments.snapshot? voter e.currentEpoch).isSome then
    return (false, e)
  else do
    let power ← escrow.votingPower voter now
    let (_, commitments) :=
      e.commitments.takeSnapshot voter e.currentEpoch power (e.weights.seqno voter)
    return (true, { e with commitments })

/-- Takes the voter's snapshot of the current epoch anew.  Anyone may call. -/
def resetSnapshot (e : Engine) (escrow : Escrow) (now : Timestamp) (voter : Address) :
    Except VotingError Engine := do
  let power ← escrow.votingPower voter now
  let commitments ←
    e.commitments.resetSnapshot voter e.currentEpoch power (e.weights.seqno voter)
  return { e with commitments }

/-- Commits the voter's power of the current epoch to a gauge, according to the
voter's weights.  Anyone may call. -/
def commit (e : Engine) (voter gauge : Address) :
    Except VotingError (CommitOutcome × Engine) := do
  let g ← e.registry.get gauge
  let (outcome, commitments) ←
    e.commitments.commit voter g e.currentEpoch (e.weights.weight voter gauge)
      (e.weights.totalWeight voter) (e.weights.seqno voter)
  return (outcome, { e with commitments })

/-- Takes back a commitment of the current epoch; only the delegate may.  Answers
with the power released. -/
def revert (e : Engine) (escrow : Escrow) (authority voter gauge : Address)
    (epoch : Epoch) : Except VotingError (UInt64 × Engine) := do
  let _ ← escrow.requireDelegate authority voter
  e.factory.requireLive epoch
  let (released, commitments) ← e.commitments.revert voter gauge epoch
  return (released, { e with commitments })

/-- Removes the record of an elapsed commitment, whose allocation stays claimable;
only the delegate may.  Answers with the allocation. -/
def close (e : Engine) (escrow : Escrow) (authority voter gauge : Address)
    (epoch : Epoch) : Except VotingError (UInt64 × Engine) := do
  let _ ← escrow.requireDelegate authority voter
  e.factory.requireElapsed epoch
  let (vote, commitments) ← e.commitments.close voter gauge epoch
  return (vote.allocatedPower, { e with commitments })

/-! ## Views -/

/-- The power committed to a gauge in an epoch; zero if there is no record. -/
def totalPower (e : Engine) (gauge : Address) (epoch : Epoch) : UInt64 :=
  ((e.commitments.epochGauge? gauge epoch).map EpochGauge.totalPower).getD 0

/-- A gauge's share of the rewards: its power in the epoch before the current
one. -/
def rewardShare (e : Engine) (gauge : Address) : UInt64 :=
  match e.factory.previousEpoch? with
  | some epoch => e.totalPower gauge epoch
  | none => 0

end Engine
end EpochVoting
