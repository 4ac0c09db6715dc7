/-!
# TOML values

The values of TOML, and tables that statements fill one after the other.  What a
statement may still add to a table depends on how the table came about, so a
table carries its form.
-/

namespace EpochVoting
namespace Toml

/-- How a table came about. -/
inductive TableForm where
  /-- Written in braces; nothing can be added. -/
  | closed
  /-- Named by a header. -/
  | named
  /-- Implied by the header of a table inside it. -/
  | implied
  /-- Made by a dotted key. -/
  | dotted
deriving DecidableEq

/-- A value. -/
inductive Value where
  | string (text : String)
  | integer (number : Int)
  /-- A float, as it is written. -/
  | float (text : String)
  | boolean (value : Bool)
  /-- A date, a time of day or both, as written. -/
  | dateTime (text : String)
  | array (items : List Value)
  | table (form : TableForm) (entries : List (String × Value))
  /-- Tables that headers in double brackets have made, in order. -/
  | tables (items : List (List (String × Value)))

/-- The entries of a table, in the order in which their keys came up. -/
abbrev Entries := List (String × Value)

namespace Entries

/-- The table with the value of a key replaced, or added at the end. -/
def put (key : String) (value : Value) : Entries → Entries
  | [] => [(key, value)]
  | entry :: rest =>
    if entry.1 = key then (key, value) :: rest else entry :: put key value rest

/-- The table with a key added, unless it has the key. -/
def add? (key : String) (value : Value) (entries : Entries) : Option Entries :=
  match entries.lookup key with
  | none => some (entries ++ [(key, value)])
  | some _ => none

/-- A list of tables with the last one changed. -/
def changeLast? (change : Entries → Option Entries) (items : List Entries) :
    Option (List Entries) := do
  let last ← items.getLast?
  return items.dropLast ++ [← change last]

/-- The table after an assignment to a dotted key, of which `path` are all parts
but the last.  The path makes the tables that are missing.  It may lead through
tables that were implied or made by dotted keys, and through the last of a list
of tables, but must end in a table made by dotted keys. -/
def assign? (key : String) (value : Value) : List String → Entries → Option Entries
  | [], entries => add? key value entries
  | step :: path, entries =>
    match entries.lookup step with
    | none => do return put step (.table .dotted (← assign? key value path [])) entries
    | some (.table form inner) =>
      if form = .dotted ∨ form = .implied ∧ path ≠ [] then do
        return put step (.table form (← assign? key value path inner)) entries
      else none
    | some (.tables items) =>
      if path ≠ [] then do
        return put step (.tables (← changeLast? (assign? key value path) items)) entries
      else none
    | some _ => none

/-- The table after a change to the table that a header's path leads to.  The
path makes the tables that are missing; it leads through every table that is not
closed and through the last of a list of tables. -/
def within? (change : Entries → Option Entries) : List String → Entries → Option Entries
  | [], entries => change entries
  | step :: path, entries =>
    match entries.lookup step with
    | none => do return put step (.table .implied (← within? change path [])) entries
    | some (.table form inner) =>
      if form = .closed then none
      else do return put step (.table form (← within? change path inner)) entries
    | some (.tables items) => do
      return put step (.tables (← changeLast? (within? change path) items)) entries
    | some _ => none

/-- The table after a header for a table of it: the key is new, or names a table
that was only implied. -/
def openTable? (key : String) (entries : Entries) : Option Entries :=
  match entries.lookup key with
  | none => some (put key (.table .named []) entries)
  | some (.table .implied inner) => some (put key (.table .named inner) entries)
  | some _ => none

/-- The table after a header for a further table in a list of it: the key is new,
or names such a list. -/
def openItem? (key : String) (entries : Entries) : Option Entries :=
  match entries.lookup key with
  | none => some (put key (.tables [[]]) entries)
  | some (.tables items) => some (put key (.tables (items ++ [[]])) entries)
  | some _ => none

/-- The value of a key, read by a reader. -/
def field? {α : Type} (read : Value → Option α) (key : String) (entries : Entries) :
    Option α :=
  entries.lookup key >>= read

/-- The value of a key, read by a reader, or a default if there is no such key. -/
def fieldOr? {α : Type} (read : Value → Option α) (key : String) (absent : α)
    (entries : Entries) : Option α :=
  match entries.lookup key with
  | none => some absent
  | some value => read value

end Entries

namespace Value

/-- The text of a string. -/
def text? : Value → Option String
  | string text => some text
  | _ => none

/-- The value of a boolean. -/
def boolean? : Value → Option Bool
  | boolean value => some value
  | _ => none

/-- The number of an integer that is not negative and lies below a bound. -/
def below? (bound : Nat) : Value → Option Nat
  | integer (.ofNat number) => if number < bound then some number else none
  | _ => none

/-- The number of an integer, as one of 64 bits. -/
def amount? (value : Value) : Option UInt64 :=
  (value.below? UInt64.size).map UInt64.ofNat

/-- The number of an integer, as one of 32 bits. -/
def count? (value : Value) : Option UInt32 :=
  (value.below? UInt32.size).map UInt32.ofNat

/-- The items of an array. -/
def items? : Value → Option (List Value)
  | array items => some items
  | _ => none

/-- The texts of an array of strings. -/
def texts? (value : Value) : Option (List String) := do
  (← value.items?).mapM text?

/-- The entries of a table. -/
def entries? : Value → Option Entries
  | table _ entries => some entries
  | _ => none

/-- The tables of a list of tables, in either spelling. -/
def tables? : Value → Option (List Entries)
  | tables items => some items
  | array items => items.mapM entries?
  | _ => none

/-- Holds for a table without entries. -/
def isEmptyTable : Value → Bool
  | table _ [] => true
  | _ => false

/-- Holds for an array without items. -/
def isEmptyArray : Value → Bool
  | array [] => true
  | _ => false

/-- The name of an alternative: a string, or the key of a table whose only entry
holds nothing. -/
def alternative? (holdsNothing : Value → Bool) : Value → Option String
  | string name => some name
  | table _ [(name, content)] => if holdsNothing content then some name else none
  | _ => none

end Value
end Toml
end EpochVoting
