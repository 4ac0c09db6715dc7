import EpochVoting.CommandLine.Invocation
import EpochVoting.Scenario.Replay

/-!
# What an invocation comes to

The configuration file is read first, if one is named; arguments override it.  Then
the scenario is read and replayed, and its report printed.  A failure is told with
the failure behind it.
-/

namespace EpochVoting

/-- How the program ends. -/
inductive Outcome where
  | printed (text : String)
  /-- A failure, and what was being done if that needs to be said. -/
  | failed (context : Option String) (failure : Failure)
  | misused
deriving DecidableEq

namespace Outcome

/-- The exit code. -/
def code : Outcome → UInt32
  | printed _ => 0
  | failed .. => 1
  | misused => 2

/-- The text on the standard output. -/
def output : Outcome → String
  | printed text => text
  | _ => ""

/-- A text in which every line but the first is indented by four spaces. -/
def indented (text : String) : String :=
  String.ofList <| text.toList.flatMap fun c => if c = '\n' then "\n    ".toList else [c]

/-- The text of an error and of the failure behind it. -/
def errorText (message : String) (cause : Option String) : String :=
  match cause with
  | none => s!"Error: {message}\n"
  | some cause => s!"Error: {message}\n\nCaused by:\n    {indented cause}\n"

/-- How the program is called. -/
def usage : String :=
  "usage: gauge-sim [OPTIONS] run --scenario PATH [--epoch-duration-secs N] [--json]\n" ++
  "       gauge-sim [OPTIONS] default-config\n" ++
  "options: --config PATH, --log-level LEVEL, --log-format human|json\n"

/-- The text on the standard error output. -/
def errors : Outcome → String
  | printed _ => ""
  | failed none failure => errorText failure.message failure.causeMessage?
  | failed (some context) failure => errorText context (some failure.message)
  | misused => usage

end Outcome

namespace Invocation

/-- The contents of files. -/
abbrev Files := String → Except FileError String

/-- The configuration in a file. -/
def readConfig (files : Files) (path : String) : Except ConfigError Config := do
  let text ← (files path).mapError (ConfigError.unreadable path)
  Config.read text

/-- The scenario in a file. -/
def readScenario (files : Files) (path : String) : Except ScenarioError Scenario := do
  let text ← (files path).mapError (ScenarioError.unreadable path)
  Scenario.read text

/-- A configuration with the settings of the arguments. -/
def override (i : Invocation) (c : Config) : Config :=
  { c with
    logLevel := i.logLevel.getD c.logLevel
    logFormat := i.logFormat.getD c.logFormat }

/-- The report of a replay with the given settings. -/
def simulate (files : Files) (c : Config) (scenario : String)
    (epochDurationSecs : Option UInt64) : Except Failure Report := do
  let c := { c with epochDurationSecs := epochDurationSecs.getD c.epochDurationSecs }
  c.check.mapError Failure.config
  let scenario ← (readScenario files scenario).mapError Failure.scenario
  scenario.simulate c

/-- Carries out the command. -/
def execute (i : Invocation) (files : Files) (c : Config) : Outcome :=
  match i.command with
  | .defaultConfig => .printed Config.default.text
  | .run scenario epochDurationSecs json =>
    match simulate files (i.override c) scenario epochDurationSecs with
    | .ok report => .printed (if json then report.jsonText else report.text)
    | .error failure => .failed none failure

/-- What the invocation comes to. -/
def outcome (i : Invocation) (files : Files) : Outcome :=
  match i.config with
  | none => i.execute files Config.default
  | some path =>
    match readConfig files path with
    | .ok c => i.execute files c
    | .error cause => .failed (some s!"loading config {path}") (.config cause)

end Invocation

namespace Outcome

/-- What arguments come to. -/
def ofArguments (args : List String) (environment : String → Option String)
    (files : Invocation.Files) : Outcome :=
  match Invocation.ofArguments? args environment with
  | some invocation => invocation.outcome files
  | none => .misused

end Outcome
end EpochVoting
