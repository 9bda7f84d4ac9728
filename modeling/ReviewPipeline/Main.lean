import ReviewPipeline.CommandLine.Terminal
import ReviewPipeline.CommandLine.Usage
import ReviewPipeline.Files.Disk
import Std.Time.DateTime.Timestamp

/-!
# The Program

The outermost layer: it reads the environment, the clock and the files that a command works with,
hands them to `ReviewPipeline.CommandLine.run`, and carries out what comes back.
-/

namespace ReviewPipeline.Program

open CommandLine

/-- The variables of the environment that commands look at. -/
def variableNames : List String :=
  ["HOME", "USER", "PIPECTL_DB", "PIPECTL_TEST_DB", "PIPECTL_WORKSPACE", "PIPECTL_ACTOR"]

/-- Read the environment. -/
def environment : IO Environment := do
  let values ← variableNames.filterMapM fun name => do
    return (← IO.getEnv name).map fun value => (name, value)
  return Environment.ofVariables (fun name => values.lookup name) none

/-- Read the clock, and draw a random number for identifiers. -/
def stamp : IO Stamp := do
  let now ← Std.Time.Timestamp.now
  let seed ← IO.rand 0 17592186044415
  return { now := now.toMillisecondsSinceUnixEpoch.toInt, seed := seed }

/-- Look what is at a location of the disk, inside a directory. -/
def node? (location : Location) : IO (Option Node) := do
  try
    return some (.file (.ofBytes (← IO.FS.readBinFile (Path.ofLocation location))))
  catch
    | .inappropriateType .. => return some .directory
    | _ => return none

/-- Read what is at a location, if there is something inside a known directory that is not read
yet. -/
def load (files : Files) (location : Location) : IO Files := do
  if (files.at? location).isSome || files.at? location.dropLast != some .directory then
    return files
  match ← node? location with
  | some node => return files.put location node
  | none => return files

/-- Carry out one change of the disk. A file is first written beside its place and then moved
there, so that no reader finds half of it. -/
def carryOut : DiskAction → IO Unit
  | .makeDirectory path => IO.FS.createDirAll path
  | .writeFile path text => do
    let beside := path ++ ".new"
    IO.FS.writeFile beside text
    IO.FS.rename beside path
  | .removeFile path => IO.FS.removeFile path

/-- Print lines on the standard output. -/
def printLines (lines : List String) : IO Unit :=
  lines.forM (IO.println ·)

/-- Show what a command line came to. -/
def present : Ended → IO Unit
  | .helped => printLines usageLines
  | .refused => usageLines.forM (IO.eprintln ·)
  | .completions shell => printLines shell.script
  | .finished result => do
    IO.print result.stdout
    IO.eprint result.stderr

end ReviewPipeline.Program

open ReviewPipeline ReviewPipeline.Program in
/-- Run one command line. -/
def main (arguments : List String) : IO UInt32 := do
  let env ← environment
  let stamp ← stamp
  let isTerminal ← (← IO.getStdout).isTty
  let screen : CommandLine.Screen :=
    { isTerminal := isTerminal, hasColors := isTerminal && (← IO.getEnv "NO_COLOR").isNone }
  let here := Path.names (toString (← IO.currentDir))
  let locations :=
    match CommandLine.read env arguments with
    | .ok inv => CommandLine.locationsOf env inv here
    | .error _ => []
  let files ← locations.foldlM load { workingDirectory := here }
  let (ended, after) := CommandLine.run env stamp screen arguments files
  (files.actionsTo after).forM carryOut
  present ended
  return UInt32.ofNat ended.exitCode
