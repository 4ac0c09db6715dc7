import EpochVoting.Error

/-!
# Log formats

The two forms of log lines.  A format is named in either case on the command
line and in lower case in a configuration.
-/

namespace EpochVoting

/-- The form of a log line. -/
inductive LogFormat where
  /-- A line for a reader. -/
  | human
  /-- A line for a program. -/
  | json
deriving DecidableEq

namespace LogFormat

/-- The written form of a format. -/
def text : LogFormat → String
  | human => "human"
  | json => "json"

/-- The format with exactly the given written form. -/
def ofText? : String → Option LogFormat
  | "human" => some human
  | "json" => some json
  | _ => none

/-- The format a text names, in either case; the error shows the text in lower
case. -/
def parse (text : String) : Except NameError LogFormat :=
  demand (.unknownLogFormat text.toLower) (ofText? text.toLower)

theorem ofText?_text (format : LogFormat) : ofText? format.text = some format := by
  cases format <;> rfl

end LogFormat
end EpochVoting
