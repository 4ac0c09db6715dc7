import EpochVoting.LogFormat
import EpochVoting.Text.Digits

/-!
# Arguments

The arguments are a command with options.  Some options may stand before the command
and after it; an environment variable stands in for an option that is not given.
An argument that is unknown, repeated in one place, without its value or not
readable makes all of them invalid.
-/

namespace EpochVoting

/-- What the program is to do. -/
inductive Command where
  /-- Replays a scenario file. -/
  | run (scenario : String) (epochDurationSecs : Option UInt64) (json : Bool)
  /-- Prints the default configuration. -/
  | defaultConfig
deriving DecidableEq

/-- A command, with the settings that may stand before it and after it. -/
structure Invocation where
  /-- Path of the configuration file. -/
  config : Option String
  logLevel : Option String
  logFormat : Option LogFormat
  command : Command
deriving DecidableEq

namespace Invocation

/-! ## Options -/

/-- A word that starts with a dash and has more to it. -/
def isOption (word : String) : Bool :=
  match word.toList with
  | '-' :: _ :: _ => true
  | _ => false

/-- The parts of a word before and after its first equals sign. -/
def splitValue (word : String) : String × Option String :=
  let cs := word.toList
  match cs.dropWhile (· ≠ '=') with
  | [] => (word, none)
  | _ :: value => (String.ofList (cs.takeWhile (· ≠ '=')), some (String.ofList value))

/-- Options with their values; a flag has the empty value. -/
abbrev Given := List (String × String)

/-- Takes the options in front of the first argument that is none.  The value of an
option follows an equals sign or is the next argument, which must not look like an
option; a flag has no value.  Two dashes end the options and the arguments. -/
def takeOptions (valued flags : List String) : List String → Option (Given × List String)
  | [] => some ([], [])
  | "--" :: rest => if rest.isEmpty then some ([], []) else none
  | word :: rest =>
    if isOption word then
      let (name, value) := splitValue word
      if valued.contains name then
        match value, rest with
        | some value, rest => do
          let (given, rest) ← takeOptions valued flags rest
          return ((name, value) :: given, rest)
        | none, value :: rest => do
          if isOption value then failure
          let (given, rest) ← takeOptions valued flags rest
          return ((name, value) :: given, rest)
        | none, [] => none
      else if flags.contains name && value.isNone then do
        let (given, rest) ← takeOptions valued flags rest
        return ((name, "") :: given, rest)
      else none
    else some ([], word :: rest)

/-- Takes options, none of which is given twice. -/
def takeDistinct (valued flags : List String) (args : List String) :
    Option (Given × List String) := do
  let (given, rest) ← takeOptions valued flags args
  if (given.map Prod.fst).Nodup then return (given, rest) else failure

/-! ## Values -/

/-- A path, which must not be empty. -/
def path? (text : String) : Option String :=
  if text.isEmpty then none else some text

/-- A log format, in either case. -/
def logFormat? (text : String) : Option LogFormat :=
  (LogFormat.parse text).toOption

/-- A decimal number of 64 bits, which may have a plus sign. -/
def amount? (text : String) : Option UInt64 := do
  let digits := match text.toList with
    | '+' :: digits => digits
    | digits => digits
  let n ← Text.Digits.decimal? (String.ofList digits)
  if n < UInt64.size then some (UInt64.ofNat n) else none

/-- The value of an option that may stand before the command and after it.  The
place after it goes first, the environment last.  The environment's value must be
readable unless the option is given in both places. -/
def common {α : Type} (read : String → Option α) (before after environment : Option String) :
    Option (Option α) := do
  let outer ← before.mapM read
  let inner ← after.mapM read
  let fallback ← if outer.isSome && inner.isSome then pure none else environment.mapM read
  return inner <|> outer <|> fallback

/-- The value of an option of a command, or else the environment's. -/
def own {α : Type} (read : String → Option α) (given environment : Option String) :
    Option (Option α) :=
  (given <|> environment).mapM read

/-! ## Commands -/

/-- The options that may stand before the command and after it. -/
def commonOptions : List String :=
  ["--config", "--log-level", "--log-format"]

/-- The command of a word and the arguments after it, with the common options among
them. -/
def command? (environment : String → Option String) (word : String) (args : List String) :
    Option (Command × Given) := do
  match word with
  | "run" =>
    let valued := commonOptions ++ ["--scenario", "--epoch-duration-secs"]
    let (given, rest) ← takeDistinct valued ["--json"] args
    if !rest.isEmpty then failure
    let scenario ← given.lookup "--scenario" >>= path?
    let secs ← own amount? (given.lookup "--epoch-duration-secs")
      (environment "GAUGE_EPOCH_DURATION_SECS")
    return (.run scenario secs (given.lookup "--json").isSome, given)
  | "default-config" =>
    let (given, rest) ← takeDistinct commonOptions [] args
    if !rest.isEmpty then failure
    return (.defaultConfig, given)
  | _ => failure

/-- The invocation that the arguments and the environment stand for. -/
def ofArguments? (args : List String) (environment : String → Option String) :
    Option Invocation := do
  let (before, rest) ← takeDistinct commonOptions [] args
  match rest with
  | [] => failure
  | word :: args =>
    let (command, after) ← command? environment word args
    let option := fun (name : String) => (before.lookup name, after.lookup name)
    let (config, config') := option "--config"
    let (level, level') := option "--log-level"
    let (format, format') := option "--log-format"
    return {
      config := ← common path? config config' (environment "GAUGE_SIM_CONFIG")
      logLevel := ← common some level level' (environment "GAUGE_LOG_LEVEL")
      logFormat := ← common logFormat? format format' (environment "GAUGE_LOG_FORMAT")
      command }

/-- The environment variables that are read. -/
def environmentVariables : List String :=
  ["GAUGE_SIM_CONFIG", "GAUGE_LOG_LEVEL", "GAUGE_LOG_FORMAT", "GAUGE_EPOCH_DURATION_SECS"]

/-- The files that are read. -/
def files (i : Invocation) : List String :=
  i.config.toList ++
    match i.command with
    | .run scenario _ _ => [scenario]
    | .defaultConfig => []

end Invocation
end EpochVoting
