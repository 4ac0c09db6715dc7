import EpochVoting.Deployment.Basic

/-!
# Calls that work with the collaborators

These calls of the engine capture fees, pay claims, escrow and settle bribes, and
tell the reward sink its shares.  Each makes all its checks first, then has tokens
moved, and writes its records last.
-/

namespace EpochVoting
namespace Deployment

open EpochVoting.Action

/-! ## Epoch records of gauges -/

/-- Moves a side's captured fees from the pool into the fee vault. -/
def captureSide (gauge : Gauge) (side : FeeSide) (amount : UInt64) : Action Unit :=
  if amount = 0 then
    return
  else
    transfer (gauge.fee side).mint (Account.poolFees gauge.target side)
      (gauge.feeVault side) amount

/-- Moves the captured fees of both sides, once the pool is seen to hold them.  For
an empty capture there is nothing to see to. -/
def moveCaptured (target : Address) (gauge : Gauge) (capture : FeeCapture) : Action Unit :=
  if capture.isEmpty then
    return
  else do
    requireBalance (gauge.fee .a).mint (Account.poolFees target .a) (capture.accrued.get .a)
    requireBalance (gauge.fee .b).mint (Account.poolFees target .b) (capture.accrued.get .b)
    captureSide gauge .a (capture.accrued.get .a)
    captureSide gauge .b (capture.accrued.get .b)

/-- Creates a gauge's record of the current epoch unless there is one, with the
fees its pool has earned since the last capture; tells whether it was created.
Anyone may call. -/
def ensureEpochGauge (target : Address) (epoch : Epoch) : Action Bool := do
  let d ← get
  d.engine.factory.requireLive epoch
  let gauge ← d.engine.registry.get target
  gauge.requireEnabled
  if (d.engine.commitments.epochGauge? target epoch).isSome then
    return false
  else
    let capture ← FeeCapture.compute gauge (d.pool.totals target)
    moveCaptured target gauge capture
    changeEngine fun d => do
      let registry ← d.engine.registry.update target capture.apply
      let (_, commitments) :=
        d.engine.commitments.createEpochGauge target epoch capture.accrued
      return { d.engine with registry, commitments }
    return true

/-- Removes a gauge's record of an elapsed epoch in which nobody voted for it; its
fees are added to the gauge's pruned fees.  Anyone may call. -/
def cleanEpochGauge (target : Address) (epoch : Epoch) : Action Unit := do
  let d ← get
  d.engine.factory.requireElapsed epoch
  let record ← d.engine.commitments.epochGauge target epoch
  require (record.totalPower == 0) (VotingError.notEmpty record.totalPower)
  let gauge ← d.engine.registry.get target
  let pruned ← gauge.prunedTotals record
  changeEngine fun d => do
    let (_, commitments) ← d.engine.commitments.removeEmptyEpochGauge target epoch
    return { d.engine with commitments }
  changeEngine fun d => do
    let registry ← d.engine.registry.update target fun g => g.setPruned pruned
    return { d.engine with registry }

/-! ## Reward shares -/

/-- Tells the sink an enabled gauge's share.  Anyone may call. -/
def syncGauge (target : Address) : Action UInt64 := do
  let d ← get
  let gauge ← d.engine.registry.get target
  gauge.requireEnabled
  let share := d.engine.rewardShare target
  pushShare target share
  return share

/-- Tells the sink that a disabled gauge has no share.  Anyone may call. -/
def syncDisabledGauge (target : Address) : Action Unit := do
  let d ← get
  let gauge ← d.engine.registry.get target
  require (!gauge.enabled) (VotingError.gaugeNotDisabled target)
  pushShare target 0

/-! ## Fees -/

/-- Pays the voter's part of a side's fees of an elapsed epoch to the owner of the
lock; only the delegate may call.  Answers with the amount, which is zero, and
leaves nothing recorded, if nobody voted for the gauge. -/
def claimFee (authority voter target : Address) (epoch : Epoch) (side : FeeSide) :
    Action UInt64 := do
  let d ← get
  let lock ← d.escrow.requireDelegate authority voter
  d.engine.factory.requireElapsed epoch
  let gauge ← d.engine.registry.get target
  let record ← d.engine.commitments.epochGauge target epoch
  let snapshot ← d.engine.commitments.snapshot voter epoch
  let allocation := d.engine.commitments.allocation? voter target epoch
  match ← FeeClaim.compute gauge record snapshot allocation side with
  | none => return 0
  | some claim =>
    if 0 < claim.share then
      pay (gauge.fee side).mint (gauge.feeVault side) lock.owner claim.share
    changeEngine fun d => do
      let registry ← d.engine.registry.update target claim.applyToGauge
      let commitments ←
        d.engine.commitments.updateSnapshot voter epoch (claim.applyToSnapshot target)
      return { d.engine with registry, commitments }
    return claim.share

/-! ## Bribes -/

/-- Escrows a reward for every epoch from the current one up to `epochEnd`, which
is not included.  Answers with the bribe's id. -/
def createBribe (briber gauge mint : Address) (rewardPerEpoch : UInt64)
    (epochEnd : Epoch) : Action UInt64 := do
  let d ← get
  let _ ← d.engine.registry.get gauge
  let id ← d.engine.factory.nextBribeId
  let bribe ← Bribe.prepare id gauge briber mint rewardPerEpoch d.engine.currentEpoch epochEnd
  let escrowed ← bribe.totalEscrow
  pay mint briber bribe.vault escrowed
  changeEngine fun d => do
    let (_, factory) ← d.engine.factory.takeBribeId
    return { d.engine with factory, bribes := d.engine.bribes.insert bribe }
  return id

/-- Pays the voter's part of a bribe's reward of an elapsed epoch to the owner of
the lock; only the delegate may call.  Answers with the amount. -/
def claimBribe (authority voter : Address) (id : UInt64) (epoch : Epoch) :
    Action UInt64 := do
  let d ← get
  let lock ← d.escrow.requireDelegate authority voter
  d.engine.factory.requireElapsed epoch
  let bribe ← d.engine.bribes.get id
  let claim ← d.engine.bribes.checkClaim voter id epoch
    (d.engine.totalPower bribe.gauge epoch)
    (d.engine.commitments.allocation? voter bribe.gauge epoch)
  if 0 < claim.amount then
    pay bribe.mint bribe.vault lock.owner claim.amount
  changeEngine fun d => do
    let bribes ← d.engine.bribes.recordClaim claim
    return { d.engine with bribes }
  return claim.amount

/-- Returns a bribe's reward of an elapsed epoch in which nobody voted for the
gauge; only the briber may call.  Answers with the amount. -/
def clawBackBribe (authority : Address) (id : UInt64) (epoch : Epoch) : Action UInt64 := do
  let d ← get
  d.engine.factory.requireElapsed epoch
  let bribe ← d.engine.bribes.get id
  let clawback ← d.engine.bribes.checkClawback authority id epoch
    (d.engine.totalPower bribe.gauge epoch)
  pay bribe.mint bribe.vault bribe.briber clawback.amount
  changeEngine fun d => do
    let bribes ← d.engine.bribes.recordClawback clawback
    return { d.engine with bribes }
  return clawback.amount

end Deployment
end EpochVoting
