import GraphLoad.CommandLine.Arguments

/-! The command line program: it reads the files that a request names, carries the request out, and
prints or writes what comes of it. -/

namespace GraphLoad.Program

/-- How the command line is used. -/
def usage : String :=
  "Usage: graphload [OPTIONS] MODEL\n\n"
    ++ "  --output constraints|load-csv|standard|pyingest|validate\n"
    ++ "  --columns FILE  --config FILE  -o, --out FILE\n"
    ++ "  --no-strict-typing  --method api|browser  --batch-size ROWS\n"
    ++ "  --source-name FILE  --file-directory DIRECTORY\n"
    ++ "  --server-uri URI  --admin-user USER  --database NAME  --basepath DIRECTORY\n"

/-- The text of a file, if there is one. -/
def readText? (path : String) : IO (Option String) := do
  try
    return String.fromUTF8? (← IO.FS.readBinFile path)
  catch _ =>
    return none

/-- The files that a request names, read at once. Whether one can be written turns out later. -/
def filesOf (c : Command) : IO Files := do
  let texts ← (c.model :: (c.columns.toList ++ c.config.toList)).mapM fun path =>
    return (path, ← readText? path)
  return { read? := fun path => (texts.lookup path).join, isWritable := fun _ => true }

/-- The variables that options are read from, read at once. -/
def environment : IO Environment := do
  let values ← Environment.optionVariables.mapM fun name => return (name, ← IO.getEnv name)
  return fun name => (values.lookup name).join

/-- Reports a failure. -/
def fail (f : Failure) : IO UInt32 := do
  IO.eprintln ("Error: " ++ f.message)
  return 1

/-- Carries out a request. -/
def perform (c : Command) : IO UInt32 := do
  let outcome := c.run (← filesOf c) (← environment)
  IO.print outcome.printed
  match outcome.saved with
  | none => pure ()
  | some (path, text) =>
    try
      IO.FS.writeFile path text
    catch _ =>
      return ← fail (.unwritable path)
  match outcome.failure with
  | none => return 0
  | some failure => fail failure

end GraphLoad.Program

open GraphLoad in
/-- Runs the command line program. -/
def main (arguments : List String) : IO UInt32 := do
  match Command.ofWords arguments with
  | .ok command => Program.perform command
  | .error .information =>
    IO.print Program.usage
    return 0
  | .error .usage =>
    IO.eprint Program.usage
    return 2
