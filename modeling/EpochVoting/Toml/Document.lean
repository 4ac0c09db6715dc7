import EpochVoting.Toml.Scalar

/-!
# TOML documents

A document is a list of statements, one a line: headers, which say to which table
the lines below belong, and assignments.  `Document.read?` reads a text and fills
the tables; the result is the entries of the outermost table.  It accepts arrays
and tables in braces nested to a depth below eighty, and dotted keys of fewer than
eighty parts.
-/

namespace EpochVoting
namespace Toml

/-- A reader takes characters from the front of a text, or refuses the text. -/
abbrev Reader := StateT (List Char) Option

namespace Reader

/-! ## Characters, blanks and ends of lines -/

/-- The next character, if there is one. -/
def peek : Reader (Option Char) := do
  return (← get).head?

/-- Takes the given character if it comes next; tells whether it did. -/
def accept (c : Char) : Reader Bool := fun
  | [] => some (false, [])
  | d :: rest => if d = c then some (true, rest) else some (false, d :: rest)

/-- Takes the given character, which must come next. -/
def expect (c : Char) : Reader Unit := do
  if !(← accept c) then failure

/-- Takes blanks. -/
def blanks : Reader Unit :=
  modify fun text => text.dropWhile Text.isBlank

/-- What follows blanks, line ends and comments, where `comment` tells whether the
text starts inside a comment. -/
def afterGap? (comment : Bool) : List Char → Option (List Char)
  | [] => some []
  | '\n' :: rest => afterGap? false rest
  | '\r' :: '\n' :: rest => afterGap? false rest
  | c :: rest =>
    if comment then
      if Text.isPlain c then afterGap? true rest else none
    else if c = '#' then afterGap? true rest
    else if Text.isBlank c then afterGap? false rest
    else some (c :: rest)

/-- Takes blanks, line ends and comments. -/
def gap : Reader Unit := do
  set (← afterGap? false (← get))

/-- Refuses what may not follow a statement on its line: all but blanks and a
comment. -/
def lineEnd : Reader Unit := do
  blanks
  match ← peek with
  | none | some '#' | some '\n' | some '\r' => gap
  | some _ => failure

/-! ## Keys -/

/-- A character of keys without marks. -/
def isKeyChar (c : Char) : Bool :=
  c.isAlphanum || c = '_' || c = '-'

/-- Takes a part of a key: a word or a string. -/
def keyPart : Reader String := do
  let text ← get
  match Text.oneLine text with
  | some (part, rest) =>
    set rest
    return String.ofList part
  | none =>
    let part := text.takeWhile isKeyChar
    if part.isEmpty then failure
    set (text.dropWhile isKeyChar)
    return String.ofList part

/-- Takes a dotted key of at most the given number of parts. -/
def key : Nat → Reader (List String)
  | 0 => failure
  | parts + 1 => do
    blanks
    let part ← keyPart
    blanks
    if ← accept '.' then
      return part :: (← key parts)
    return [part]

/-- The greatest number of parts of a key. -/
def maxKeyParts : Nat := 79

/-- Takes a dotted key; yields all its parts but the last, and the last. -/
def path : Reader (List String × String) := do
  let parts ← key maxKeyParts
  return (parts.dropLast, ← parts.getLast?)

/-! ## Values -/

/-- Takes the items of an array and its closing bracket.  Each item takes at least
one character, so that the number of characters bounds the number of items. -/
def items (item : Reader Value) : Nat → Reader (List Value)
  | 0 => failure
  | bound + 1 => do
    gap
    if ← accept ']' then
      return []
    let first ← item
    gap
    if ← accept ',' then
      return first :: (← items item bound)
    expect ']'
    return [first]

/-- Takes an assignment, to the given entries. -/
def assignment (item : Reader Value) (entries : Entries) : Reader Entries := do
  let (path, key) ← path
  expect '='
  blanks
  let value ← item
  entries.assign? key value path

/-- Takes the assignments of a table in braces and the closing brace. -/
def assignments (item : Reader Value) : Nat → Entries → Reader Entries
  | 0, _ => failure
  | bound + 1, entries => do
    let entries ← assignment item entries
    blanks
    if ← accept ',' then
      assignments item bound entries
    else
      expect '}'
      return entries

/-- Takes an array, whose opening bracket is taken. -/
def array (item : Reader Value) : Reader Value := do
  return .array (← items item ((← get).length + 1))

/-- Takes a table in braces, whose opening brace is taken. -/
def closedTable (item : Reader Value) : Reader Value := do
  blanks
  if ← accept '}' then
    return .table .closed []
  return .table .closed (← assignments item ((← get).length + 1) [])

/-- Takes a string or a word. -/
def simpleValue : Reader Value := fun text =>
  match text with
  | '"' :: _ | '\'' :: _ =>
    (Text.string text).map fun (string, rest) => (.string (String.ofList string), rest)
  | _ => Scalar.read text

/-- Takes a value in which arrays and tables in braces are nested to at most the
given depth. -/
def value : Nat → Reader Value
  | 0 => simpleValue
  | depth + 1 => do
    if ← accept '[' then array (value depth)
    else if ← accept '{' then closedTable (value depth)
    else simpleValue

/-- The greatest depth of nested arrays and tables in braces. -/
def maxDepth : Nat := 79

/-! ## Statements -/

/-- A document that is being read: the outermost table, and the keys that lead from
it to the table that assignments go to. -/
structure Progress where
  entries : Entries
  current : List String

/-- Takes a statement. -/
def statement (d : Progress) : Reader Progress := do
  if ← accept '[' then
    let isItem ← accept '['
    let (path, key) ← path
    expect ']'
    if isItem then
      expect ']'
    let change := if isItem then Entries.openItem? key else Entries.openTable? key
    return ⟨← d.entries.within? change path, path ++ [key]⟩
  else
    let (path, key) ← path
    expect '='
    blanks
    let item ← value maxDepth
    return { d with entries := ← d.entries.within? (Entries.assign? key item path) d.current }

/-- Takes the statements of a document.  Each takes at least one character, so that
the number of characters bounds the number of statements. -/
def statements : Nat → Progress → Reader Progress
  | 0, _ => failure
  | bound + 1, d => do
    gap
    match ← peek with
    | none => return d
    | some _ =>
      let d ← statement d
      lineEnd
      statements bound d

end Reader

namespace Document

/-- The characters of a text without a byte-order mark at the front. -/
def characters (text : String) : List Char :=
  match text.toList with
  | '\uFEFF' :: rest => rest
  | cs => cs

/-- The outermost table of a document. -/
def read? (text : String) : Option Entries := do
  let cs := characters text
  let (d, _) ← Reader.statements (cs.length + 1) ⟨[], []⟩ cs
  return d.entries

end Document
end Toml
end EpochVoting
