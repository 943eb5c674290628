import StoredRoutines.Batch.Rehearsal
import StoredRoutines.Command
import StoredRoutines.Config.Reader

/-!
# The program

Rehearses a run: `[--config FILE] load [SOURCE…]`. Without sources on the command line all
sources are loaded that the settings select among those whose paths stand on standard input, one
a line. The notices go to standard error and the report
to standard output; the exit code tells whether all routines could be loaded.
-/

namespace StoredRoutines.Program

/-- The bytes of a file, if it can be read. -/
def readBytes? (path : Path) : IO (Option ByteArray) := do
  try
    return some (← IO.FS.readBinFile path.text)
  catch _ =>
    return none

/-- The lines of standard input. -/
partial def readLines (input : IO.FS.Stream) : IO (List String) := do
  let line ← input.getLine
  if line.isEmpty then
    return []
  else
    return Source.linesOf line ++ (← readLines input)

/-- The paths of the sources: those of the command, or else those on standard input. -/
def sourcePaths (command : Command) : IO (List Path) := do
  if command.sources.isEmpty then
    let lines ← readLines (← IO.getStdin)
    return (lines.filter fun line => !line.isEmpty).map Path.mk
  else
    return command.sources

/-- The sources that can be read, with their bytes. -/
def readSources (paths : List Path) : IO (List (Path × ByteArray)) :=
  paths.filterMapM fun path => do
    return (← readBytes? path).map fun content => (path, content)

/-- Prints a failure and answers with the exit code of one. -/
def fail (message : String) : IO UInt32 := do
  IO.eprintln ("Error: " ++ message)
  return 1

/-- Rehearses the run that a command asks for. -/
def perform (command : Command) : IO UInt32 := do
  let configFile := (← readBytes? command.configPath).map fun content =>
    (command.configPath, content)
  match Config.load (filesOf configFile.toList) command.configPath with
  | .error e => fail e.message
  | .ok config =>
    let paths ← sourcePaths command
    let outcome := rehearse config command.sources (← readSources paths)
    for notice in outcome.session.notices do
      IO.eprintln notice.line
    match outcome.result with
    | .error e => fail e.message
    | .ok report =>
      IO.print report.summary
      match report.failure? with
      | some message => fail message
      | none => return 0

/-- What the arguments ask for is done. -/
def answer (arguments : List String) : IO UInt32 :=
  match Command.parse arguments with
  | .error e => fail e.message
  | .ok command => perform command

end StoredRoutines.Program

/-- The program answers its arguments. -/
def main (arguments : List String) : IO UInt32 :=
  StoredRoutines.Program.answer arguments
