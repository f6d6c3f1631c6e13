import Std.Time.DateTime.Timestamp
import SyntaxReport.Command.Execute

/-!
# The command on a real system

The outer layer of the command: it collects what `Command.execute` needs from the disk and the
environment, and carries out what that answers. The parsing engine is a separate program: its answer
for the file is read from the standard input.

The disk is taken for one without links, on which the program may do everything.
-/

namespace SyntaxReport.Main

open Calendar (DateTime)
open SmallSystem

/-- The microseconds from the start of year 1 to the start of 1970. -/
def unixEpoch : Int := (719162 * Calendar.microsPerDay : Nat)

/-- The reading of the system's clock in universal time. -/
def clock : IO DateTime := do
  let now ← Std.Time.Timestamp.now
  let nanoseconds := now.toNanosecondsSinceUnixEpoch.toInt
  return DateTime.ofMicroseconds (unixEpoch + nanoseconds / 1000).toNat

/-- The absolute text of a location. -/
def textOf (location : Location) : String :=
  String.ofList ('/' :: Text.joinWith ['/'] location.reverse)

/-- The location of the working directory. -/
def workingDirectory : IO Location := do
  let directory ← IO.currentDir
  return (Path.ofText directory.toString.toList).names.reverse

/-- The locations that a path leads through, from its start on. -/
def stations (here : Location) : List Name → List Location
  | [] => []
  | name :: more =>
    let next := if name = upward then here.tail else name :: here
    next :: stations next more

/-- What stands at a location of the disk. -/
def entryAt (location : Location) : IO (Option Entry) := do
  let path := (← IO.currentDir) / textOf location
  if ← path.isDir then return some .directory
  if ← path.pathExists then
    return some (.file (← IO.FS.readBinFile path).toList)
  return none

/-- The part of the disk that some paths lead through. -/
def snapshot (directory : Location) (paths : List Path) : IO FileSystem := do
  let mut files := FileSystem.empty directory
  for path in paths do
    for location in stations (files.start path.root) path.names do
      match ← entryAt location with
      | some entry => files := files.put location entry
      | none => pure ()
  return files

/-- The paths that an argument list names: the file, the output directory, and the report. -/
def namedPaths (arguments : List Text) : List Path :=
  match Command.readArguments arguments with
  | .error _ => []
  | .ok items =>
    let directory := Command.outputDirectoryOf items
    let around (file : Text) : List Path := [Path.ofText file, outputPath file directory]
    Path.ofText directory :: (Command.operands items).flatMap around

/-- Carry a change over to the disk. -/
def apply : Location × Option Entry → IO Unit
  | (location, some .directory) => IO.FS.createDirAll (textOf location)
  | (location, some (.file content)) =>
    IO.FS.writeBinFile (textOf location) ⟨content.toArray⟩
  | (_, none) => pure ()

/-- The engine whose answer is read from the standard input, if the command gets to its work. -/
def engine (files : FileSystem) (arguments : List Text) : IO Engine := do
  match Command.interpret files arguments with
  | .ok (.work _) =>
    let answer ← (← IO.getStdin).getLine
    let tree := answer.toList.filter (· != '\n')
    return fun _ _ => tree
  | _ => return fun _ _ => []

/-- Run the command with an argument list, and answer its exit code. -/
def run (arguments : List Text) : IO UInt32 := do
  let before ← snapshot (← workingDirectory) (namedPaths arguments)
  let around : Command.Surroundings :=
    { clock := ← clock
      noColor := (← IO.getEnv "NO_COLOR").map String.toList
      terminal := ← (← IO.getStdout).isTty }
  let ended := Command.execute (← engine before arguments) around before arguments
  (before.changes ended.files).forM apply
  IO.print (String.ofList (ended.out ++ ended.closing))
  IO.eprint (String.ofList ended.err)
  match ended.exit with
  | .ok code => return code.toUInt32
  | .error error =>
    IO.eprintln (String.ofList error.message)
    return 1

end SyntaxReport.Main

/-- The program: the command with the arguments of the process. -/
def main (arguments : List String) : IO UInt32 :=
  SyntaxReport.Main.run (arguments.map String.toList)
