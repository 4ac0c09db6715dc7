import EpochVoting.Account
import EpochVoting.Tokens

/-!
# Fee pool

The pool counts the trading fees that each gauge's target has ever earned, on
either side.  Earned fees are held by the pool's fee account of the target and
the side until the engine captures them.
-/

namespace EpochVoting

/-- The fees a target has ever earned. -/
structure PoolCounter where
  target : Address
  totals : PerSide UInt64
deriving DecidableEq

/-- A counter is filed under its target. -/
instance : Keyed PoolCounter Address := ⟨PoolCounter.target⟩

/-- The counters of all targets. -/
structure FeePool where
  counters : Table PoolCounter
deriving DecidableEq

namespace FeePool

/-- The pool in which nothing was earned. -/
def empty : FeePool := ⟨Table.empty⟩

/-- The fees a target has ever earned on both sides. -/
def totals (p : FeePool) (target : Address) : PerSide UInt64 :=
  ((p.counters.find? target).map PoolCounter.totals).getD (PerSide.both 0)

/-- The fees a target has ever earned on a side. -/
def total (p : FeePool) (target : Address) (side : FeeSide) : UInt64 :=
  (p.totals target).get side

/-- The pool with the counter of a side replaced, whatever it was. -/
def setTotal (p : FeePool) (target : Address) (side : FeeSide) (total : UInt64) : FeePool :=
  ⟨p.counters.insert ⟨target, (p.totals target).set side total⟩⟩

/-- New fees of a target, paid into the pool's fee account in the given mint. -/
def accrue (p : FeePool) (tokens : TokenLedger) (target : Address) (side : FeeSide)
    (mint : Address) (amount : UInt64) : Except ExternalError (FeePool × TokenLedger) := do
  let next ← demand (.rejected "fee counter overflow")
    (Amount.add? (p.total target side) amount)
  let tokens ← tokens.issue mint (Account.poolFees target side) amount
  return (p.setTotal target side next, tokens)

end FeePool
end EpochVoting
