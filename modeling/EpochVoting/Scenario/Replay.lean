import EpochVoting.Config
import EpochVoting.Scenario.Basic
import EpochVoting.Scenario.Report
import EpochVoting.Text.Occurrence

/-!
# Replaying a scenario

A scenario is replayed on a deployment that its configuration creates, one step
after the other.  The first step that ends otherwise than the scenario says ends the
replay.  After the last step the deployment is audited.
-/

namespace EpochVoting

namespace Config

/-- A new deployment with the settings. -/
def deploy (c : Config) : Except Failure Deployment := do
  c.check.mapError Failure.config
  let foreman := Account.named c.foreman
  (Deployment.create foreman c.factoryParams c.maxLockSecs).mapError Failure.setup

end Config

namespace ScenarioStep

/-- The report on a step that ended with the given result in the given epoch, if it
ended as it must. -/
def judge (s : ScenarioStep) (index : Nat) (epoch : Epoch) :
    Except VotingError String → Except Failure StepReport
  | .ok outcome =>
    match s.expectedError with
    | none => .ok { index, action := s.step.action, epoch, ok := true, outcome }
    | some expected => .error (.unexpectedSuccess index s.step.action expected)
  | .error cause =>
    match s.expectedError with
    | none => .error (.stepFailed index s.step.action cause)
    | some expected =>
      if Text.occursIn expected.toList cause.message.toList then
        .ok { index, action := s.step.action, epoch, ok := false, outcome := cause.message }
      else .error (.wrongError index s.step.action expected cause.message)

/-- The result of a step, and the deployment after it. -/
def attempt (s : ScenarioStep) (d : Deployment) : Except VotingError String × Deployment :=
  match s.step.run.run d with
  | .ok outcome d => (.ok outcome, d)
  | .error cause d => (.error cause, d)

end ScenarioStep

namespace Scenario

/-- Replays steps, the first of which has the given position; yields their reports
and the deployment after them. -/
def replaySteps : Nat → List ScenarioStep → Deployment →
    Except Failure (List StepReport × Deployment)
  | _, [], d => .ok ([], d)
  | index, s :: rest, d => do
    let (result, d) := s.attempt d
    let report ← s.judge index d.engine.currentEpoch result
    let (reports, d) ← replaySteps (index + 1) rest d
    return (report :: reports, d)

/-- The reported balances: for each account, in the order of the names, the tokens
it holds. -/
def balances (s : Scenario) (d : Deployment) : List (String × List (String × UInt64)) :=
  s.accounts.map fun account =>
    (account, s.mints.filterMap fun mint =>
      let balance := d.tokens.balance (Account.named mint) (Account.named account)
      if balance = 0 then none else some (mint, balance))

/-- Replays a scenario on a deployment and audits the deployment. -/
def replay (s : Scenario) (d : Deployment) : Except Failure Report := do
  let (steps, d) ← replaySteps 0 s.steps d
  d.audit.mapError Failure.violated
  return {
    name := s.name
    finalEpoch := d.engine.currentEpoch
    steps
    balances := s.balances d }

/-- Replays a scenario on the deployment of a configuration. -/
def simulate (s : Scenario) (c : Config) : Except Failure Report := do
  s.replay (← c.deploy)

end Scenario
end EpochVoting
