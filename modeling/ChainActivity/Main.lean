import ChainActivity.CommandLine.Basic

/-!
# Entry point

Reads arguments, environment and file, and prints what the command answers.  This build has
no client for a shared cache, so that none can be reached.
-/

namespace ChainActivity

/-- The bytes of a file, if it can be read. -/
def readBytes (path : String) : IO (Option (List UInt8)) := do
  try
    let bytes ← IO.FS.readBinFile path
    pure (some bytes.toList)
  catch _ => pure none

/-- Prints what the command does with a file and gives the exit code. -/
def report (path : String) : Outcome → IO UInt32
  | .printed lines => do
    for line in lines do
      IO.println line
    pure 0
  | .unreadable => do
    IO.eprintln s!"Cannot read {path}"
    pure 1
  | .malformed => do
    IO.eprintln s!"Invalid input: {path}"
    pure 1
  | .broken => pure 101

/-- The values of the variables that options may come from. -/
def readEnvironment : IO (List (String × String)) := do
  let mut found := []
  for option in ValueOption.all do
    if let some name := option.variable? then
      if let some value ← IO.getEnv name then
        found := found ++ [(name, value)]
  pure found

end ChainActivity

open ChainActivity in
/-- Runs the command. -/
def main (args : List String) : IO UInt32 := do
  let environment ← readEnvironment
  match Arguments.read (fun name => environment.lookup name) args with
  | .help => do
    for line in Command.usage do
      IO.println line
    pure 0
  | .failed e => do
    IO.eprintln (e.message.getD "The arguments are not understood; see --help.")
    pure 2
  | .finished a => do
    let path := a.path (← IO.getEnv "HOME")
    let around := Surroundings.alone (← IO.monoNanosNow)
    report path (Command.outcome around a (← readBytes path))
