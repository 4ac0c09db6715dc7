import EpochVoting.Text.Column
import EpochVoting.Text.Json
import EpochVoting.Time

/-!
# Reports

What is told of a replayed scenario, as text for a reader or as JSON.  There is a
report only if every step ended as the scenario says and the audit at the end found
no violation, so both forms say that the invariants hold.
-/

namespace EpochVoting

open Text

/-- How a step ended. -/
structure StepReport where
  /-- Position of the step, from zero. -/
  index : Nat
  action : String
  /-- The epoch after the step. -/
  epoch : Epoch
  /-- Whether the step succeeded. -/
  ok : Bool
  /-- What came of the step, or the message of its failure. -/
  outcome : String
deriving DecidableEq

/-- What a replay tells. -/
structure Report where
  name : String
  finalEpoch : Epoch
  steps : List StepReport
  /-- For each account the balances that are not zero, by token. -/
  balances : List (String × List (String × UInt64))
deriving DecidableEq

namespace StepReport

/-- The line on a step. -/
def line (s : StepReport) : String :=
  let mark := if s.ok then "ok " else "err"
  let index := column 3 (toString s.index)
  let epoch := column 3 (toString s.epoch)
  let action := column 24 s.action
  s!"  [{mark}] #{index} epoch {epoch} {action} {s.outcome}"

/-- The JSON of a step. -/
def json (s : StepReport) : Json.Lines :=
  Json.object [
    ("index", Json.number s.index),
    ("action", Json.string s.action),
    ("epoch", Json.number s.epoch.toNat),
    ("ok", Json.boolean s.ok),
    ("outcome", Json.string s.outcome)]

end StepReport

namespace Report

/-- The lines on an account. -/
def balanceLines (account : String) (balances : List (String × UInt64)) : List String :=
  balances.map fun (mint, amount) =>
    "  " ++ column 12 account ++ " " ++ column 8 mint ++ " " ++ toString amount

/-- The text of a report. -/
def text (r : Report) : String :=
  let balances := r.balances.flatMap fun (account, held) => balanceLines account held
  let lines :=
    [s!"scenario: {r.name}"] ++ r.steps.map StepReport.line ++
      [s!"final epoch: {r.finalEpoch}"] ++ balances ++ ["invariants: ok"]
  String.join (lines.map (· ++ "\n"))

/-- The JSON of a report. -/
def json (r : Report) : Json.Lines :=
  let held := fun (balances : List (String × UInt64)) =>
    Json.object (balances.map fun (mint, amount) => (mint, Json.number amount.toNat))
  Json.object [
    ("name", Json.string r.name),
    ("final_epoch", Json.number r.finalEpoch.toNat),
    ("steps", Json.array (r.steps.map StepReport.json)),
    ("balances", Json.object (r.balances.map fun (account, balances) => (account, held balances))),
    ("invariants_ok", Json.boolean true)]

/-- The text of a report in JSON. -/
def jsonText (r : Report) : String :=
  Json.text r.json ++ "\n"

end Report
end EpochVoting
