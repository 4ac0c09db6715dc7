import EpochVoting.Account
import EpochVoting.Error
import EpochVoting.Table

/-!
# Gauges

A gauge is a destination that can be voted for, identified by its target
address.  It carries the running totals of the fees that its pool has earned for
its voters, one counter for each side.  The registry holds all gauges.
-/

namespace EpochVoting

/-- Fee accounting for one side of a gauge.  Fees enter the vault in the call
that raises `cumulativeAccrued` and leave it in the call that raises
`cumulativeClaimed`. -/
structure FeeCounter where
  /-- Token that the fees are paid in. -/
  mint : Address
  cumulativeAccrued : UInt64
  cumulativeClaimed : UInt64
  /-- Pool total seen when fees were last captured. -/
  lastPoolTotal : UInt64
  /-- Fees of unvoted epochs whose records have been removed. -/
  prunedAccrued : UInt64
deriving DecidableEq

namespace FeeCounter

/-- A counter that starts from the pool's present total, so earlier fees are
never attributed to the gauge. -/
def starting (mint : Address) (poolTotal : UInt64) : FeeCounter where
  mint := mint
  cumulativeAccrued := 0
  cumulativeClaimed := 0
  lastPoolTotal := poolTotal
  prunedAccrued := 0

/-- Fees captured and not yet paid out. -/
def outstanding (c : FeeCounter) : UInt64 :=
  Amount.subFloored c.cumulativeAccrued c.cumulativeClaimed

end FeeCounter

/-- A destination that can be voted for. -/
structure Gauge where
  target : Address
  enabled : Bool
  fees : PerSide FeeCounter
deriving DecidableEq

/-- A gauge is filed under its target. -/
instance : Keyed Gauge Address := ⟨Gauge.target⟩

namespace Gauge

/-- The fee counter of a side. -/
def fee (g : Gauge) (side : FeeSide) : FeeCounter :=
  g.fees.get side

/-- The account that holds a side's captured fees. -/
def feeVault (g : Gauge) (side : FeeSide) : Address :=
  Account.feeVault g.target side

/-- Refuses a disabled gauge. -/
def requireEnabled (g : Gauge) : Except VotingError Unit :=
  require g.enabled (.gaugeDisabled g.target)

end Gauge

/-- All gauges of a deployment. -/
structure Registry where
  gauges : Table Gauge
deriving DecidableEq

namespace Registry

/-- The registry without gauges. -/
def empty : Registry := ⟨Table.empty⟩

/-- The gauge with a target. -/
def get (r : Registry) (target : Address) : Except VotingError Gauge :=
  demand (.gaugeNotFound target) (r.gauges.find? target)

/-- The registry with a gauge's record replaced, or added. -/
def put (r : Registry) (g : Gauge) : Registry :=
  ⟨r.gauges.insert g⟩

/-- Registers a gauge, disabled.  The pool's present totals are its fee baseline. -/
def create (r : Registry) (target : Address) (mints : PerSide Address)
    (poolTotals : PerSide UInt64) : Except VotingError (Gauge × Registry) := do
  require (!r.gauges.contains target) (.gaugeExists target)
  let g : Gauge := {
    target
    enabled := false
    fees := PerSide.ofFn fun side =>
      FeeCounter.starting (mints.get side) (poolTotals.get side) }
  return (g, r.put g)

/-- Sets the enabled flag; tells whether it changed. -/
def setEnabled (r : Registry) (target : Address) (enabled : Bool) :
    Except VotingError (Bool × Registry) := do
  let g ← r.get target
  return (g.enabled != enabled, r.put { g with enabled })

/-- The registry with a gauge's record changed. -/
def update (r : Registry) (target : Address) (change : Gauge → Gauge) :
    Except VotingError Registry := do
  let g ← r.get target
  return r.put (change g)

end Registry
end EpochVoting
