import EpochVoting.Failure
import EpochVoting.Scenario.Step
import EpochVoting.Toml.Document

/-!
# Scenarios

A scenario is a list of steps with a name.  A step that must fail comes with a part
of the message it must fail with.
-/

namespace EpochVoting

/-- A step, and how it must end. -/
structure ScenarioStep where
  step : Step
  /-- A part of the message of the failure that must come; `none` if the step must
  succeed. -/
  expectedError : Option String
deriving DecidableEq

/-- A named list of steps. -/
structure Scenario where
  name : String
  steps : List ScenarioStep
deriving DecidableEq

namespace ScenarioStep

/-- The step in a table. -/
def ofEntries? (entries : Toml.Entries) : Option ScenarioStep := do
  return {
    step := ← Step.ofEntries? entries
    expectedError := ← entries.fieldOr? (fun v => v.text?.map some) "expect_error" none }

end ScenarioStep

namespace Scenario

/-- The scenario in the entries of a document: a name and a list of tables, each of
which may be absent.  Other keys mean nothing. -/
def ofEntries? (entries : Toml.Entries) : Option Scenario := do
  let tables ← entries.fieldOr? Toml.Value.tables? "steps" []
  return {
    name := ← entries.fieldOr? Toml.Value.text? "name" ""
    steps := ← tables.mapM ScenarioStep.ofEntries? }

/-- The scenario in a document. -/
def read (text : String) : Except ScenarioError Scenario :=
  demand .malformed (Toml.Document.read? text >>= ofEntries?)

/-- Names in the order of their characters, each once. -/
def sortedNames (names : List String) : List String :=
  names.eraseDups.mergeSort fun a b => decide (a ≤ b)

/-- The accounts whose balances are reported. -/
def accounts (s : Scenario) : List String :=
  sortedNames (s.steps.flatMap fun entry => entry.step.accounts)

/-- The tokens in which balances are reported. -/
def mints (s : Scenario) : List String :=
  sortedNames (s.steps.flatMap fun entry => entry.step.mints)

end Scenario
end EpochVoting
