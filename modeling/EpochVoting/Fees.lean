import EpochVoting.Commitment

/-!
# Fees

When a gauge's record of an epoch is created, what its pool has earned since the
last time is captured: it becomes that epoch's fees and moves into the gauge's
fee vaults.  After the epoch each voter may claim, on each side, the part of the
fees that the voter's allocation is of the gauge's total power.
-/

namespace EpochVoting

/-- The fees to capture for a new epoch record. -/
structure FeeCapture where
  /-- Pool totals seen now; they are the next baseline. -/
  poolTotals : PerSide UInt64
  /-- What moves from the pool into the fee vaults. -/
  accrued : PerSide UInt64
  /-- The gauge's running totals after the capture. -/
  cumulativeAccrued : PerSide UInt64
deriving DecidableEq

namespace FeeCapture

/-- What one side's counter gains from a pool total: the gain and the new running
total. -/
def computeSide (gauge : Gauge) (poolTotals : PerSide UInt64) (side : FeeSide) :
    Except VotingError (UInt64 × UInt64) := do
  let counter := gauge.fee side
  let observed := poolTotals.get side
  let gain ← demand
    (.feePoolRegressed gauge.target side counter.lastPoolTotal observed)
    (Amount.sub? observed counter.lastPoolTotal)
  let total ← demand .overflow (Amount.add? counter.cumulativeAccrued gain)
  return (gain, total)

/-- The fees earned since the last capture.  A pool total may not have fallen. -/
def compute (gauge : Gauge) (poolTotals : PerSide UInt64) : Except VotingError FeeCapture := do
  let sides ← PerSide.tryFn (computeSide gauge poolTotals)
  return {
    poolTotals
    accrued := PerSide.ofFn fun side => (sides.get side).1
    cumulativeAccrued := PerSide.ofFn fun side => (sides.get side).2 }

/-- Whether nothing was earned on either side. -/
def isEmpty (c : FeeCapture) : Bool :=
  c.accrued == PerSide.both 0

/-- The gauge after the capture. -/
def apply (c : FeeCapture) (gauge : Gauge) : Gauge :=
  { gauge with
    fees := PerSide.ofFn fun side =>
      { gauge.fee side with
        lastPoolTotal := c.poolTotals.get side
        cumulativeAccrued := c.cumulativeAccrued.get side } }

end FeeCapture

/-- A voter's payout for one side of a gauge's fees of an epoch. -/
structure FeeClaim where
  side : FeeSide
  share : UInt64
  /-- The gauge's running total after the claim. -/
  cumulativeClaimed : UInt64
deriving DecidableEq

namespace FeeClaim

/-- The payout, given the voter's allocation to the gauge.  An epoch without power
pays nothing, and its fees are not marked as claimed. -/
def compute (gauge : Gauge) (epochGauge : EpochGauge) (snapshot : Snapshot)
    (allocation : Option UInt64) (side : FeeSide) :
    Except VotingError (Option FeeClaim) := do
  require (!snapshot.feeClaimed gauge.target side) .alreadyClaimed
  if epochGauge.totalPower = 0 then
    return none
  else
    let allocated ← demand (.notCommitted snapshot.voter gauge.target epochGauge.epoch)
      allocation
    let share ← demand .castFailed
      (Amount.share? (epochGauge.accruedFee side) allocated epochGauge.totalPower)
    let total ← demand .overflow
      (Amount.add? (gauge.fee side).cumulativeClaimed share)
    return some { side, share, cumulativeClaimed := total }

/-- The gauge after the claim. -/
def applyToGauge (c : FeeClaim) (gauge : Gauge) : Gauge :=
  { gauge with
    fees := gauge.fees.set c.side
      { gauge.fee c.side with cumulativeClaimed := c.cumulativeClaimed } }

/-- The snapshot after the claim on a gauge's fees. -/
def applyToSnapshot (c : FeeClaim) (gauge : Address) (snapshot : Snapshot) : Snapshot :=
  snapshot.markFeeClaimed gauge c.side

end FeeClaim

namespace Gauge

/-- The pruned fees of both sides once an unvoted epoch's record is removed. -/
def prunedTotals (gauge : Gauge) (removed : EpochGauge) :
    Except VotingError (PerSide UInt64) :=
  PerSide.tryFn fun side =>
    demand .overflow (Amount.add? (gauge.fee side).prunedAccrued (removed.accruedFee side))

/-- The gauge with the pruned fees of both sides replaced. -/
def setPruned (gauge : Gauge) (pruned : PerSide UInt64) : Gauge :=
  { gauge with
    fees := PerSide.ofFn fun side =>
      { gauge.fee side with prunedAccrued := pruned.get side } }

end Gauge
end EpochVoting
