import EpochVoting.Audit

/-!
# Failures of a simulation

A simulation replays a scenario on a new deployment.  It may lack a configuration
or a scenario, the deployment may not come about, a step may end otherwise than
the scenario says, and the audit at the end may find a violation.
-/

namespace EpochVoting

/-- Why a file cannot be read. -/
inductive FileError where
  | notFound
  | other (reason : String)
deriving DecidableEq

namespace FileError

/-- The message of a file that cannot be read. -/
def message : FileError → String
  | notFound => "No such file or directory (os error 2)"
  | other reason => reason

end FileError

/-- Why there is no configuration. -/
inductive ConfigError where
  | unreadable (path : String) (cause : FileError)
  | malformed
  | zeroEpochDuration
  | zeroMaxLock
deriving DecidableEq

namespace ConfigError

/-- The message of a missing configuration. -/
def message : ConfigError → String
  | unreadable path cause => s!"{path}: {cause.message}"
  | malformed => "the text is not a configuration"
  | zeroEpochDuration => "epoch_duration_secs must be non-zero"
  | zeroMaxLock => "max_lock_secs must be non-zero"

end ConfigError

/-- Why there is no scenario. -/
inductive ScenarioError where
  | unreadable (path : String) (cause : FileError)
  | malformed
deriving DecidableEq

namespace ScenarioError

/-- The message of a missing scenario. -/
def message : ScenarioError → String
  | unreadable path cause => s!"{path}: {cause.message}"
  | malformed => "the text is not a scenario"

end ScenarioError

/-- Why a simulation ends without a report. -/
inductive Failure where
  | config (cause : ConfigError)
  | scenario (cause : ScenarioError)
  | setup (cause : VotingError)
  /-- A step failed that was not expected to. -/
  | stepFailed (index : Nat) (action : String) (cause : VotingError)
  /-- A step succeeded that was expected to fail. -/
  | unexpectedSuccess (index : Nat) (action expected : String)
  /-- A step failed with another message than the one expected. -/
  | wrongError (index : Nat) (action expected actual : String)
  | violated (cause : Violation)
deriving DecidableEq

namespace Failure

/-- The message of a failure. -/
def message : Failure → String
  | config cause => s!"configuration error: {cause.message}"
  | scenario cause => s!"scenario error: {cause.message}"
  | setup cause => s!"engine setup failed: {cause.message}"
  | stepFailed index action cause => s!"step {index} ({action}) failed: {cause.message}"
  | unexpectedSuccess index action expected =>
    s!"step {index} ({action}) succeeded but was expected to fail with '{expected}'"
  | wrongError index action expected actual =>
    s!"step {index} ({action}) failed with '{actual}', expected '{expected}'"
  | violated cause => s!"invariant violated: {cause.message}"

/-- The message of the engine's or the audit's own finding behind a failure. -/
def causeMessage? : Failure → Option String
  | setup cause => some cause.message
  | stepFailed _ _ cause => some cause.message
  | violated cause => some cause.message
  | _ => none

end Failure
end EpochVoting
