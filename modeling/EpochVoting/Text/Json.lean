import EpochVoting.Text.Hex

/-!
# JSON on several lines

A value is built as its lines.  The members of an object and the items of an array
stand on lines of their own, two spaces to the right of the marks around them; an
object or array without any is a pair of marks.
-/

namespace EpochVoting
namespace Text
namespace Json

/-- The lines of a value. -/
abbrev Lines := List String

/-- The characters that stand for a character in a string: marks and control
characters are escaped, all others stand for themselves. -/
def escape (c : Char) : List Char :=
  match c with
  | '"' => ['\\', '"']
  | '\\' => ['\\', '\\']
  | '\x08' => ['\\', 'b']
  | '\t' => ['\\', 't']
  | '\n' => ['\\', 'n']
  | '\x0c' => ['\\', 'f']
  | '\r' => ['\\', 'r']
  | _ =>
    if c.toNat < 0x20 then
      ['\\', 'u', '0', '0', Hex.digit (c.toNat / 16), Hex.digit (c.toNat % 16)]
    else [c]

/-- The text of a string. -/
def quote (text : String) : String :=
  String.ofList ('"' :: text.toList.flatMap escape ++ ['"'])

/-- A string. -/
def string (text : String) : Lines :=
  [quote text]

/-- A number. -/
def number (n : Nat) : Lines :=
  [toString n]

/-- A boolean. -/
def boolean (b : Bool) : Lines :=
  [toString b]

/-- Lines with a text put before the first. -/
def before (text : String) : Lines → Lines
  | [] => [text]
  | line :: rest => (text ++ line) :: rest

/-- Lines with a text put after the last. -/
def after (text : String) : Lines → Lines
  | [] => [text]
  | [line] => [line ++ text]
  | line :: rest => line :: after text rest

/-- The lines of parts, with commas between the parts. -/
def separated : List Lines → Lines
  | [] => []
  | [part] => part
  | part :: rest => after "," part ++ separated rest

/-- Parts between two marks. -/
def enclosed (opening closing : String) (parts : List Lines) : Lines :=
  if parts.isEmpty then [opening ++ closing]
  else opening :: (separated parts).map ("  " ++ ·) ++ [closing]

/-- An array. -/
def array (items : List Lines) : Lines :=
  enclosed "[" "]" items

/-- An object, with its members in the given order. -/
def object (members : List (String × Lines)) : Lines :=
  enclosed "\x7b" "\x7d" (members.map fun (name, value) => before (quote name ++ ": ") value)

/-- The text of a value. -/
def text (lines : Lines) : String :=
  "\n".intercalate lines

end Json
end Text
end EpochVoting
