import EpochVoting.CommandLine.Outcome

/-!
# The program

Collects the environment variables and the files that an invocation may need, and
prints what the invocation comes to.
-/

namespace EpochVoting

/-- The contents of a file, or why it cannot be read. -/
def readFile (path : String) : IO (Except FileError String) := do
  try
    return .ok (← IO.FS.readFile path)
  catch error =>
    match error with
    | .noFileOrDirectory .. => return .error .notFound
    | error => return .error (.other (toString error))

/-- Pairs of names and what a reader yields for them. -/
def collect {α : Type} (read : String → IO α) (names : List String) : IO (List (String × α)) :=
  names.mapM fun name => return (name, ← read name)

/-- Runs the program on arguments; yields the exit code. -/
def runProgram (args : List String) : IO UInt32 := do
  let settings ← collect (fun name => IO.getEnv name) Invocation.environmentVariables
  let environment := fun name => (settings.lookup name).join
  let paths := match Invocation.ofArguments? args environment with
    | some invocation => invocation.files
    | none => []
  let contents ← collect readFile paths
  let files := fun path => (contents.lookup path).getD (.error .notFound)
  let outcome := Outcome.ofArguments args environment files
  IO.print outcome.output
  IO.eprint outcome.errors
  return outcome.code

end EpochVoting

/-- Runs the program. -/
def main (args : List String) : IO UInt32 :=
  EpochVoting.runProgram args
