import EpochVoting.Engine
import EpochVoting.FeePool
import EpochVoting.RewardSink

/-!
# Deployments

A deployment is an engine together with everything it works with: the time, the
escrow, the fee pool, the reward sink and the token ledger.  A call on it is an
`Action`.  An action that fails ends with an error and with the deployment as it
was left at that point: what was changed before the failure stays changed.

A change of the engine alone (`onEngine`, `changeEngine`), a transfer and a
message to the sink are single steps of an action, which either change something
or fail.  They can be single steps because each makes all its checks before it
changes anything.  The one check that comes later, that a vote or a gauge's
record can be taken out, is of a record that was found before, and never fails
(`Table.take?_of_find?`).  Calls of the clock, the administration, the gauges,
the weights, the snapshots and the commitments are such a step and no more.

The other calls of the engine make several steps: they clean a gauge's record,
capture and claim fees, create bribes and settle them, or tell the sink a share.
That these leave nothing behind when a later step fails is not built in, and is
to be proved.
-/

namespace EpochVoting

/-- An engine and what it works with. -/
structure Deployment where
  /-- The foreman at the start, for whom the deployment makes administrative
  calls. -/
  foreman : Address
  now : Timestamp
  escrow : Escrow
  pool : FeePool
  sink : RewardSink
  tokens : TokenLedger
  engine : Engine
deriving DecidableEq

namespace Deployment

/-- A deployment at its genesis, without gauges, locks, fees and tokens. -/
def create (foreman : Address) (params : FactoryParams) (maxLockSecs : UInt64) :
    Except VotingError Deployment := do
  let engine ← Engine.create foreman params
  return {
    foreman
    now := params.genesis
    escrow := Escrow.create maxLockSecs
    pool := FeePool.empty
    sink := RewardSink.empty
    tokens := TokenLedger.empty
    engine }

end Deployment

/-- A call on a deployment, which may fail and may change the deployment. -/
abbrev Action (α : Type) := EStateM VotingError Deployment α

namespace Action

variable {α : Type}

/-- A computation that reads and writes nothing, as an action. -/
def ofExcept : Except VotingError α → Action α
  | .ok x => pure x
  | .error e => throw e

instance : MonadLift (Except VotingError) (EStateM VotingError Deployment) := ⟨ofExcept⟩

/-- A collaborator's computation, as an action. -/
def ofExternal (x : Except ExternalError α) : Action α :=
  ofExcept (x.mapError VotingError.ofExternal)

/-- A call on the engine alone. -/
def onEngine (call : Deployment → Except VotingError (α × Engine)) : Action α := do
  let d ← get
  let (x, engine) ← call d
  set { d with engine }
  return x

/-- A call on the engine alone that has no answer. -/
def changeEngine (call : Deployment → Except VotingError Engine) : Action Unit :=
  onEngine fun d => (call d).map fun engine => ((), engine)

/-- Refuses an account that holds less than is needed. -/
def requireBalance (mint account : Address) (needed : UInt64) : Action Unit := do
  let available := (← get).tokens.balance mint account
  require (needed ≤ available) (VotingError.insufficientFunds needed available)

/-- Moves tokens. -/
def transfer (mint source target : Address) (amount : UInt64) : Action Unit := do
  let d ← get
  let tokens ← ofExternal (d.tokens.transfer mint source target amount)
  set { d with tokens }

/-- Moves tokens from an account that must hold them. -/
def pay (mint source target : Address) (amount : UInt64) : Action Unit := do
  requireBalance mint source amount
  transfer mint source target amount

/-- Tells the reward sink a share. -/
def pushShare (target : Address) (share : UInt64) : Action Unit := do
  let d ← get
  let sink ← ofExternal (d.sink.push target share)
  set { d with sink }

end Action
end EpochVoting
