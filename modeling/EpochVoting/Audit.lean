import EpochVoting.Deployment.Basic

/-!
# The audit

The audit recomputes every stored total from the single records and compares it
with the stored value and with the tokens in the vaults.  It reports the first
violation, in the order power, weights, fees, bribes.
-/

namespace EpochVoting

/-- What the audit finds wrong.  All sums are amounts but that of the weights, which
stays within the amounts for every voter with at most 2^32 weights. -/
inductive Violation where
  | gaugePowerMismatch (gauge : Address) (epoch : Epoch) (recorded summed : UInt64)
  | voterAllocationMismatch (voter : Address) (epoch : Epoch) (recorded summed : UInt64)
  | closedPowerMismatch (owner : Address) (epoch : Epoch) (recorded summed : UInt64)
  | overAllocated (voter : Address) (epoch : Epoch) (allocated power : UInt64)
  | weightMismatch (voter : Address) (recorded : UInt64) (summed : Nat)
  | feeVaultMismatch (gauge : Address) (side : FeeSide) (accrued vault claimed : UInt64)
  | feeAccrualMismatch (gauge : Address) (side : FeeSide) (accrued summed : UInt64)
  | bribeVaultMismatch (bribe vault remaining : UInt64)
  | bribeOverpaid (bribe : UInt64)
  | bribeDoubleSettled (bribe : UInt64) (epoch : Epoch)
  | overflow
deriving DecidableEq

namespace Violation

/-- The message of a violation. -/
def message : Violation → String
  | gaugePowerMismatch gauge epoch recorded summed =>
    s!"epoch gauge {gauge}/{epoch}: total power {recorded} != claimable {summed}"
  | voterAllocationMismatch voter epoch recorded summed =>
    s!"voter {voter}/{epoch}: allocated power {recorded} != claimable {summed}"
  | closedPowerMismatch owner epoch recorded summed =>
    s!"{owner}/{epoch}: closed power {recorded} != closed allocations {summed}"
  | overAllocated voter epoch allocated power =>
    s!"voter {voter}/{epoch}: allocated {allocated} exceeds voting power {power}"
  | weightMismatch voter recorded summed =>
    s!"voter {voter}: total weight {recorded} != sum of gauge weights {summed}"
  | feeVaultMismatch gauge side accrued vault claimed =>
    s!"gauge {gauge} side {side}: accrued {accrued} != vault {vault} + claimed {claimed}"
  | feeAccrualMismatch gauge side accrued summed =>
    s!"gauge {gauge} side {side}: accrued {accrued} != epoch fees + pruned {summed}"
  | bribeVaultMismatch bribe vault remaining =>
    s!"bribe {bribe}: vault holds {vault}, unpaid escrow is {remaining}"
  | bribeOverpaid bribe => s!"bribe {bribe}: paid out more than escrowed"
  | bribeDoubleSettled bribe epoch =>
    s!"bribe {bribe} epoch {epoch}: both claimed by voters and clawed back"
  | overflow => "aggregate overflowed while auditing"

end Violation

namespace Commitments

/-- The live allocations to a gauge in an epoch. -/
def liveOnGauge (c : Commitments) (gauge : Address) (epoch : Epoch) : List UInt64 :=
  (c.votes.records.filter fun v => v.gauge == gauge && v.epoch == epoch).map
    EpochVote.allocatedPower

/-- The live allocations of a voter in an epoch. -/
def liveOfVoter (c : Commitments) (voter : Address) (epoch : Epoch) : List UInt64 :=
  (c.votes.records.filter fun v => v.voter == voter && v.epoch == epoch).map
    EpochVote.allocatedPower

/-- The closed allocations to a gauge in an epoch. -/
def closedOnGauge (c : Commitments) (gauge : Address) (epoch : Epoch) : List UInt64 :=
  (c.snapshots.records.filter fun s => s.epoch == epoch).filterMap fun s =>
    s.closedAllocation? gauge

/-- The fees of a side in all records of a gauge. -/
def feesOfGauge (c : Commitments) (gauge : Address) (side : FeeSide) : List UInt64 :=
  (c.epochGauges.records.filter fun g => g.gauge == gauge).map fun g => g.accruedFee side

end Commitments

namespace Snapshot

/-- The closed allocations of a snapshot. -/
def closedAmounts (s : Snapshot) : List UInt64 :=
  s.closedAllocations.records.map ClosedAllocation.amount

end Snapshot

namespace Audit

/-- The sum of amounts, which must be an amount. -/
def sum (amounts : List UInt64) : Except Violation UInt64 :=
  demand .overflow (Amount.sum? amounts)

/-- The sum of two amounts, which must be an amount. -/
def add (a b : UInt64) : Except Violation UInt64 :=
  demand .overflow (Amount.add? a b)

/-- All sums of allocations that the power audit forms must be amounts. -/
def checkPowerSums (c : Commitments) : Except Violation Unit := do
  c.votes.records.forM fun v => do
    let _ ← sum (c.liveOnGauge v.gauge v.epoch)
    let _ ← sum (c.liveOfVoter v.voter v.epoch)
  c.snapshots.records.forM fun s =>
    s.closedAllocations.records.forM fun a => do
      let _ ← sum (c.closedOnGauge a.gauge s.epoch)

/-- A gauge's record agrees with the allocations to it. -/
def checkEpochGauge (c : Commitments) (g : EpochGauge) : Except Violation Unit := do
  let closed ← sum (c.closedOnGauge g.gauge g.epoch)
  require (closed == g.closedPower) (.closedPowerMismatch g.gauge g.epoch g.closedPower closed)
  let live ← sum (c.liveOnGauge g.gauge g.epoch)
  let summed ← add live closed
  require (summed == g.totalPower) (.gaugePowerMismatch g.gauge g.epoch g.totalPower summed)

/-- A snapshot agrees with the voter's allocations and does not exceed its power. -/
def checkSnapshot (c : Commitments) (s : Snapshot) : Except Violation Unit := do
  let closed ← sum s.closedAmounts
  require (closed == s.closedPower) (.closedPowerMismatch s.voter s.epoch s.closedPower closed)
  let live ← sum (c.liveOfVoter s.voter s.epoch)
  let summed ← add live closed
  require (summed == s.allocatedPower)
    (.voterAllocationMismatch s.voter s.epoch s.allocatedPower summed)
  require (s.allocatedPower ≤ s.votingPower)
    (.overAllocated s.voter s.epoch s.allocatedPower s.votingPower)

/-- The power of all epochs. -/
def checkPower (c : Commitments) : Except Violation Unit := do
  checkPowerSums c
  c.epochGauges.records.forM (checkEpochGauge c)
  c.snapshots.records.forM (checkSnapshot c)

/-- Every voter's total weight is the sum of the voter's weights. -/
def checkWeights (b : WeightBook) : Except Violation Unit :=
  b.books.records.forM fun book =>
    let summed := b.summedWeight book.voter
    require (summed == book.totalWeight.toNat)
      (.weightMismatch book.voter book.totalWeight summed)

/-- One side of a gauge: what was captured is in the vault or paid out, and belongs
to an epoch or is pruned. -/
def checkFeeSide (e : Engine) (tokens : TokenLedger) (gauge : Gauge) (side : FeeSide) :
    Except Violation Unit := do
  let counter := gauge.fee side
  let vault := tokens.balance counter.mint (gauge.feeVault side)
  let held ← add vault counter.cumulativeClaimed
  require (held == counter.cumulativeAccrued)
    (.feeVaultMismatch gauge.target side counter.cumulativeAccrued vault
      counter.cumulativeClaimed)
  let recorded ← sum (e.commitments.feesOfGauge gauge.target side)
  let summed ← add recorded counter.prunedAccrued
  require (summed == counter.cumulativeAccrued)
    (.feeAccrualMismatch gauge.target side counter.cumulativeAccrued summed)

/-- The fees of all gauges. -/
def checkFees (e : Engine) (tokens : TokenLedger) : Except Violation Unit := do
  e.commitments.epochGauges.records.forM fun g => do
    let _ ← sum (e.commitments.feesOfGauge g.gauge .a)
    let _ ← sum (e.commitments.feesOfGauge g.gauge .b)
  e.registry.gauges.records.forM fun gauge => do
    checkFeeSide e tokens gauge .a
    checkFeeSide e tokens gauge .b

/-- A bribe's vault holds its unsettled escrow. -/
def checkBribeVault (tokens : TokenLedger) (b : Bribe) : Except Violation Unit := do
  let remaining ← b.remaining.mapError fun _ => .bribeOverpaid b.id
  let vault := tokens.balance b.mint b.vault
  require (vault == remaining) (.bribeVaultMismatch b.id vault remaining)

/-- All bribes, and no epoch of a bribe is settled both ways. -/
def checkBribes (l : BribeLedger) (tokens : TokenLedger) : Except Violation Unit := do
  l.bribes.records.forM (checkBribeVault tokens)
  l.clawbacks.records.forM fun k =>
    require (!l.claims.records.any fun c => c.bribe == k.bribe && c.epoch == k.epoch)
      (.bribeDoubleSettled k.bribe k.epoch)

end Audit

namespace Engine

/-- The first violation of what the records and the vaults must agree on. -/
def audit (e : Engine) (tokens : TokenLedger) : Except Violation Unit := do
  Audit.checkPower e.commitments
  Audit.checkWeights e.weights
  Audit.checkFees e tokens
  Audit.checkBribes e.bribes tokens

end Engine

namespace Deployment

/-- The audit of a deployment. -/
def audit (d : Deployment) : Except Violation Unit :=
  d.engine.audit d.tokens

end Deployment
end EpochVoting
