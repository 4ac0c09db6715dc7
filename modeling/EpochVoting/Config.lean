import EpochVoting.Failure
import EpochVoting.LogFormat
import EpochVoting.Toml.Document

/-!
# Configuration

The settings of a simulation.  In a TOML document every setting may be absent and
then has its default; other keys mean nothing.  The epoch and the longest lock
must take some time.
-/

namespace EpochVoting

/-- The settings of a simulation. -/
structure Config where
  /-- Length of one epoch in seconds. -/
  epochDurationSecs : UInt64
  /-- When the first epoch begins. -/
  genesis : Timestamp
  /-- Length at which a lock has its full power. -/
  maxLockSecs : UInt64
  /-- Name of the foreman. -/
  foreman : String
  logFormat : LogFormat
  logLevel : String
deriving DecidableEq

namespace Config

/-- Weekly epochs from time zero, and locks of at most four years. -/
def default : Config where
  epochDurationSecs := FactoryParams.defaultEpochDurationSecs
  genesis := Timestamp.zero
  maxLockSecs := 4 * 365 * 24 * 3600
  foreman := "foreman"
  logFormat := .human
  logLevel := "info"

/-- The settings of the factory. -/
def factoryParams (c : Config) : FactoryParams :=
  ⟨c.epochDurationSecs, c.genesis⟩

/-- Refuses settings with which no simulation can start. -/
def check (c : Config) : Except ConfigError Unit := do
  require (c.epochDurationSecs != 0) .zeroEpochDuration
  require (c.maxLockSecs != 0) .zeroMaxLock

/-! ## TOML -/

/-- A log format, as the alternative it is. -/
def logFormat? (value : Toml.Value) : Option LogFormat := do
  let name ← value.alternative? fun v => v.isEmptyTable || v.isEmptyArray
  LogFormat.ofText? name

/-- The settings in the entries of a document. -/
def ofEntries? (entries : Toml.Entries) : Option Config := do
  let amount := fun key absent => entries.fieldOr? Toml.Value.amount? key absent
  let text := fun key absent => entries.fieldOr? Toml.Value.text? key absent
  return {
    epochDurationSecs := ← amount "epoch_duration_secs" default.epochDurationSecs
    genesis := ⟨← amount "genesis_time" default.genesis.secs⟩
    maxLockSecs := ← amount "max_lock_secs" default.maxLockSecs
    foreman := ← text "foreman" default.foreman
    logFormat := ← entries.fieldOr? logFormat? "log_format" default.logFormat
    logLevel := ← text "log_level" default.logLevel }

/-- The settings in a document. -/
def read (text : String) : Except ConfigError Config := do
  let config ← demand .malformed (Toml.Document.read? text >>= ofEntries?)
  config.check
  return config

/-- The document of the settings, one a line. -/
def text (c : Config) : String :=
  let lines := [
    s!"epoch_duration_secs = {c.epochDurationSecs}",
    s!"genesis_time = {c.genesis.secs}",
    s!"max_lock_secs = {c.maxLockSecs}",
    "foreman = " ++ Toml.Text.write c.foreman,
    "log_format = " ++ Toml.Text.write c.logFormat.text,
    "log_level = " ++ Toml.Text.write c.logLevel]
  String.join (lines.map (· ++ "\n"))

/-- Holds if all numbers are integers of a document: below the 63rd power of two. -/
def isWritable (c : Config) : Bool :=
  [c.epochDurationSecs, c.genesis.secs, c.maxLockSecs].all fun n => n.toNat < Nat.pow 2 63

/-- The document of the settings, if one can hold them. -/
def write? (c : Config) : Option String :=
  if c.isWritable then some c.text else none

end Config
end EpochVoting
