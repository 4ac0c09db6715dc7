import EpochVoting.Deployment.Settlement

/-!
# Operations

An operation is any call on a deployment, with its arguments: a call of the engine
or something that happens around it (time passes, tokens are locked, fees are
earned).  `Deployment.perform` runs one.  Where an operation names no authority,
the call is made by whoever may make it: the foreman the deployment was created
with, or the delegate of the voter.
-/

namespace EpochVoting

namespace Deployment

open EpochVoting.Action

/-! ## Time -/

/-- Lets seconds pass; the clock stops at the latest time it can show. -/
def passTime (secs : UInt64) : Action Timestamp := do
  let d ← get
  let now : Timestamp := ⟨Amount.addCapped d.now.secs secs⟩
  set { d with now }
  return now

/-- Moves the clock to a time, unless that has passed. -/
def passTimeUntil (time : Timestamp) : Action Timestamp := do
  let d ← get
  let now := if d.now.secs < time.secs then time else d.now
  set { d with now }
  return now

/-- Sets the clock. -/
def setTime (time : Timestamp) : Action Timestamp := do
  modify fun d => { d with now := time }
  return time

/-- Advances the epoch at the clock's time. -/
def advanceEpoch : Action Epoch :=
  onEngine fun d => d.engine.advanceEpoch d.now

/-- Moves the clock to the end of the epoch, if that lies ahead, and advances. -/
def nextEpoch : Action Epoch := do
  let d ← get
  let _ ← passTimeUntil d.engine.factory.nextEpochStartsAt
  advanceEpoch

/-! ## Gauges -/

/-- Registers a gauge, disabled; the pool's present totals are its fee baseline. -/
def createGauge (target : Address) (mints : PerSide Address) : Action Unit :=
  changeEngine fun d => d.engine.createGauge target mints (d.pool.totals target)

/-- Enables or disables a gauge. -/
def setGaugeEnabled (authority : Option Address) (target : Address) (enabled : Bool) :
    Action Bool :=
  onEngine fun d => d.engine.setGaugeEnabled (authority.getD d.foreman) target enabled

/-- Registers a gauge and enables it. -/
def addGauge (target : Address) (mints : PerSide Address) : Action Unit := do
  createGauge target mints
  let _ ← setGaugeEnabled none target true

/-! ## Votes -/

/-- Sets a voter's weight on a gauge. -/
def setVote (authority : Option Address) (voter gauge : Address) (weight : UInt32) :
    Action VoteChange :=
  onEngine fun d =>
    d.engine.setVote d.escrow (authority.getD (d.escrow.delegateOf voter)) voter gauge weight

/-- Takes the voter's snapshot of the current epoch unless there is one. -/
def takeSnapshot (voter : Address) : Action Bool :=
  onEngine fun d => d.engine.takeSnapshot d.escrow d.now voter

/-- Takes the voter's snapshot of the current epoch anew. -/
def resetSnapshot (voter : Address) : Action Unit :=
  changeEngine fun d => d.engine.resetSnapshot d.escrow d.now voter

/-- Creates a gauge's record of the current epoch unless there is one. -/
def ensureCurrentEpochGauge (gauge : Address) : Action Bool := do
  let d ← get
  ensureEpochGauge gauge d.engine.currentEpoch

/-- Commits the voter's power to a gauge. -/
def commit (voter gauge : Address) : Action CommitOutcome :=
  onEngine fun d => d.engine.commit voter gauge

/-- Creates the gauges' records and commits the voter's power to them, one after
the other; answers with `allocated` and the power committed. -/
def commitAll (voter : Address) (allocated : UInt64) : List Address → Action UInt64
  | [] => return allocated
  | gauge :: rest => do
    let _ ← ensureCurrentEpochGauge gauge
    match ← commit voter gauge with
    | .committed power => do
      let total ← demand VotingError.overflow (Amount.add? allocated power)
      commitAll voter total rest
    | .nothingToCommit => commitAll voter allocated rest

/-- Takes the voter's snapshot, then creates the gauges' records and commits to
them; answers with the power committed. -/
def voteEpoch (voter : Address) (gauges : List Address) : Action UInt64 := do
  let _ ← takeSnapshot voter
  commitAll voter 0 gauges

/-- Takes back a commitment, by default of the current epoch. -/
def revert (authority : Option Address) (voter gauge : Address) (epoch : Option Epoch) :
    Action UInt64 :=
  onEngine fun d =>
    d.engine.revert d.escrow (authority.getD (d.escrow.delegateOf voter)) voter gauge
      (epoch.getD d.engine.currentEpoch)

/-- Removes the record of an elapsed commitment. -/
def close (authority : Option Address) (voter gauge : Address) (epoch : Epoch) :
    Action UInt64 :=
  onEngine fun d =>
    d.engine.close d.escrow (authority.getD (d.escrow.delegateOf voter)) voter gauge epoch

/-- Claims a side's fees, by default as the delegate. -/
def claimFeeAs (authority : Option Address) (voter gauge : Address) (epoch : Epoch)
    (side : FeeSide) : Action UInt64 := do
  let d ← get
  claimFee (authority.getD (d.escrow.delegateOf voter)) voter gauge epoch side

/-- Claims a bribe's reward, by default as the delegate. -/
def claimBribeAs (authority : Option Address) (voter : Address) (bribe : UInt64)
    (epoch : Epoch) : Action UInt64 := do
  let d ← get
  claimBribe (authority.getD (d.escrow.delegateOf voter)) voter bribe epoch

/-! ## Tokens and fees -/

/-- Creates new tokens in an account. -/
def fund (mint account : Address) (amount : UInt64) : Action Unit := do
  let d ← get
  let tokens ← ofExternal (d.tokens.issue mint account amount)
  set { d with tokens }

/-- Lets a target's pool earn fees in a given mint. -/
def accruePool (target : Address) (side : FeeSide) (mint : Address) (amount : UInt64) :
    Action Unit := do
  let d ← get
  let (pool, tokens) ← ofExternal (d.pool.accrue d.tokens target side mint amount)
  set { d with pool, tokens }

/-- Lets a gauge's pool earn fees in the gauge's own mint. -/
def accrueFees (gauge : Address) (side : FeeSide) (amount : UInt64) : Action Unit := do
  let d ← get
  let g ← d.engine.registry.get gauge
  accruePool gauge side (g.fee side).mint amount

/-- Forces a pool counter, without tokens. -/
def setPoolTotal (target : Address) (side : FeeSide) (total : UInt64) : Action Unit :=
  modify fun d => { d with pool := d.pool.setTotal target side total }

/-! ## Escrow and sink -/

/-- Locks an amount for a voter. -/
def lock (voter : Address) (amount : UInt64) (unlockAt : Option Timestamp) : Action Unit :=
  modify fun d => { d with escrow := d.escrow.setLock voter amount unlockAt }

/-- Removes a voter's lock. -/
def unlock (voter : Address) : Action Unit :=
  modify fun d => { d with escrow := d.escrow.unlock voter }

/-- Hands a voter's commitments to a delegate; tells whether there is a lock. -/
def setDelegate (voter delegate : Address) : Action Bool := do
  let d ← get
  let (known, escrow) := d.escrow.setDelegate voter delegate
  set { d with escrow }
  return known

/-- Changes the receiver of a voter's payouts; tells whether there is a lock. -/
def setOwner (voter owner : Address) : Action Bool := do
  let d ← get
  let (known, escrow) := d.escrow.setOwner voter owner
  set { d with escrow }
  return known

/-- Takes the sink out of service, or back into it. -/
def setRejecting (rejecting : Bool) : Action Unit :=
  modify fun d => { d with sink := { d.sink with rejecting } }

end Deployment

/-- A call on a deployment, with its arguments. -/
inductive Operation where
  -- Calls of the engine
  | advanceEpoch (now : Option Timestamp)
  | setForeman (authority newForeman : Address)
  | setEpochDuration (authority : Address) (secs : UInt64)
  | createGauge (gauge : Address) (mints : PerSide Address)
  | setGaugeEnabled (authority : Option Address) (gauge : Address) (enabled : Bool)
  | setVote (authority : Option Address) (voter gauge : Address) (weight : UInt32)
  | takeSnapshot (voter : Address)
  | resetSnapshot (voter : Address)
  | ensureEpochGauge (gauge : Address) (epoch : Option Epoch)
  | commit (voter gauge : Address)
  | revert (authority : Option Address) (voter gauge : Address) (epoch : Option Epoch)
  | close (authority : Option Address) (voter gauge : Address) (epoch : Epoch)
  | cleanEpochGauge (gauge : Address) (epoch : Epoch)
  | syncGauge (gauge : Address)
  | syncDisabledGauge (gauge : Address)
  | claimFee (authority : Option Address) (voter gauge : Address) (epoch : Epoch)
      (side : FeeSide)
  | createBribe (briber gauge mint : Address) (rewardPerEpoch : UInt64) (epochEnd : Epoch)
  | claimBribe (authority : Option Address) (voter : Address) (bribe : UInt64) (epoch : Epoch)
  | clawBackBribe (briber : Address) (bribe : UInt64) (epoch : Epoch)
  -- Several calls at once
  | nextEpoch
  | addGauge (gauge : Address) (mints : PerSide Address)
  | voteEpoch (voter : Address) (gauges : List Address)
  -- What happens around the engine
  | passTime (secs : UInt64)
  | passTimeUntil (time : Timestamp)
  | setTime (time : Timestamp)
  | lock (voter : Address) (amount : UInt64) (unlockAt : Option Timestamp)
  | unlock (voter : Address)
  | setDelegate (voter delegate : Address)
  | setOwner (voter owner : Address)
  | setRejecting (rejecting : Bool)
  | accrueFees (gauge : Address) (side : FeeSide) (amount : UInt64)
  | accruePool (gauge : Address) (side : FeeSide) (mint : Address) (amount : UInt64)
  | setPoolTotal (gauge : Address) (side : FeeSide) (total : UInt64)
  | fund (mint account : Address) (amount : UInt64)
  | transfer (mint source target : Address) (amount : UInt64)
deriving DecidableEq

/-- What an operation answers. -/
inductive Reply where
  | done
  | epoch (epoch : Epoch)
  | flag (value : Bool)
  | amount (value : UInt64)
  | time (now : Timestamp)
  | voteChange (change : VoteChange)
  | outcome (outcome : CommitOutcome)
deriving DecidableEq

namespace Deployment

open EpochVoting.Action

/-- Runs an operation. -/
def perform : Operation → Action Reply
  | .advanceEpoch now => .epoch <$> onEngine fun d => d.engine.advanceEpoch (now.getD d.now)
  | .setForeman authority newForeman => do
    changeEngine fun d => d.engine.setForeman authority newForeman
    return .done
  | .setEpochDuration authority secs => do
    changeEngine fun d => d.engine.setEpochDuration authority secs
    return .done
  | .createGauge gauge mints => do
    createGauge gauge mints
    return .done
  | .setGaugeEnabled authority gauge enabled =>
    .flag <$> setGaugeEnabled authority gauge enabled
  | .setVote authority voter gauge weight =>
    .voteChange <$> setVote authority voter gauge weight
  | .takeSnapshot voter => .flag <$> takeSnapshot voter
  | .resetSnapshot voter => do
    resetSnapshot voter
    return .done
  | .ensureEpochGauge gauge epoch => do
    let d ← get
    .flag <$> ensureEpochGauge gauge (epoch.getD d.engine.currentEpoch)
  | .commit voter gauge => .outcome <$> commit voter gauge
  | .revert authority voter gauge epoch => .amount <$> revert authority voter gauge epoch
  | .close authority voter gauge epoch => .amount <$> close authority voter gauge epoch
  | .cleanEpochGauge gauge epoch => do
    cleanEpochGauge gauge epoch
    return .done
  | .syncGauge gauge => .amount <$> syncGauge gauge
  | .syncDisabledGauge gauge => do
    syncDisabledGauge gauge
    return .done
  | .claimFee authority voter gauge epoch side =>
    .amount <$> claimFeeAs authority voter gauge epoch side
  | .createBribe briber gauge mint rewardPerEpoch epochEnd =>
    .amount <$> createBribe briber gauge mint rewardPerEpoch epochEnd
  | .claimBribe authority voter bribe epoch =>
    .amount <$> claimBribeAs authority voter bribe epoch
  | .clawBackBribe briber bribe epoch => .amount <$> clawBackBribe briber bribe epoch
  | .nextEpoch => .epoch <$> nextEpoch
  | .addGauge gauge mints => do
    addGauge gauge mints
    return .done
  | .voteEpoch voter gauges => .amount <$> voteEpoch voter gauges
  | .passTime secs => .time <$> passTime secs
  | .passTimeUntil time => .time <$> passTimeUntil time
  | .setTime time => .time <$> setTime time
  | .lock voter amount unlockAt => do
    lock voter amount unlockAt
    return .done
  | .unlock voter => do
    unlock voter
    return .done
  | .setDelegate voter delegate => .flag <$> setDelegate voter delegate
  | .setOwner voter owner => .flag <$> setOwner voter owner
  | .setRejecting rejecting => do
    setRejecting rejecting
    return .done
  | .accrueFees gauge side amount => do
    accrueFees gauge side amount
    return .done
  | .accruePool gauge side mint amount => do
    accruePool gauge side mint amount
    return .done
  | .setPoolTotal gauge side total => do
    setPoolTotal gauge side total
    return .done
  | .fund mint account amount => do
    fund mint account amount
    return .done
  | .transfer mint source target amount => do
    transfer mint source target amount
    return .done

/-- The deployment after an operation, whether or not it failed. -/
def after (d : Deployment) (operation : Operation) : Deployment :=
  match (perform operation).run d with
  | .ok _ d => d
  | .error _ d => d

/-- The deployment after a list of operations. -/
def afterAll (d : Deployment) (operations : List Operation) : Deployment :=
  operations.foldl after d

end Deployment
end EpochVoting
