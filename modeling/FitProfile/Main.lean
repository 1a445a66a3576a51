import Std.Time.Zoned
import FitProfile.CommandLine.Run
import FitProfile.Workbook.Listing
/-!
# FitProfile.Main -- the program

The program looks up the clock and the files that its arguments name, hands them to
`CommandLine.run`, and carries out what the result says: files and directories that are
new or changed are written, the log goes to the error stream and the fingerprint to the
output stream. A workbook is given as a listing (`Workbook/Listing.lean`); any other file
is taken as the bytes it holds.
-/

namespace FitProfile.CommandLine

/-- The error number of a directory that is read as a file. -/
def directoryErrorNumber : UInt32 := 21

/-- What stands at a path of the disk. -/
def entryOnDisk? (name : String) : IO (Option Entry) := do
  try
    let data ← IO.FS.readBinFile name
    return some (.file (.ofBytes data))
  catch
    | .inappropriateType _ number _ =>
      return if number == directoryErrorNumber then some .directory else none
    | _ => return none

/-- The paths that a run may look at: those that the texts it is given lead by. -/
def Options.paths (options : Options) (working : Path) : List Path :=
  let texts := options.workbook ::
    options.directory?.elim [] fun directory => directory :: outputFileNames directory
  (texts.flatMap fun s =>
    let names := Path.names s
    let start := if Path.fromRoot s then [] else working
    (List.range (names.length + 1)).map fun n => (names.take n).foldl Path.enter start).eraseDups

/-- The path as the disk knows it. -/
def Path.onDisk (path : Path) : String := "/" ++ path.text

/-- A file that holds a listing is taken as the workbook it lists. -/
def Entry.asWorkbook : Entry → Entry
  | .file (.text s) => .file ((Listing.read? s).elim (.text s) .payload)
  | entry => entry

/-- The part of the disk that a run may look at. -/
def treeOnDisk (options : Options) (working : Path) : IO FileTree := do
  let workbook := (Path.names options.workbook).foldl Path.enter
    (if Path.fromRoot options.workbook then [] else working)
  let entries ← (options.paths working).filterMapM fun path => do
    let entry ← entryOnDisk? path.onDisk
    return entry.map fun entry => (path, if path = workbook then entry.asWorkbook else entry)
  return FileTree.ofEntries working entries

/-- Brings the disk from one tree to another one. -/
def writeToDisk (earlier tree : FileTree) : IO Unit := do
  for (path, entry) in tree.entries do
    if earlier.get? path ≠ some entry then
      match entry with
      | .directory => IO.FS.createDirAll path.onDisk
      | .file (.text s) => IO.FS.writeFile path.onDisk s
      | .file (.payload _) => pure ()

/-- The moment on the clock. -/
def clock : IO Moment := do
  let now ← Std.Time.PlainDateTime.now
  return { date := ⟨now.year.toInt.toNat, now.month.val.toNat, now.day.val.toNat⟩
           time := ⟨now.hour.val.toNat, now.minute.val.toNat, now.second.val.toNat, 0, none⟩ }

/-- Says how a run ended, and gives its status. -/
def reportEnding (err : IO.FS.Stream) : Ending → IO UInt32
  | .status code => return code.toUInt32
  | .usage fault => do
    err.putStrLn usageText
    err.putStrLn fault.line
    return 2
  | .help => do
    (← IO.getStdout).putStrLn usageText
    return 0
  | .refused path => do
    err.putStrLn (refusalText path)
    return 1
  | .fileFault fault => do
    err.putStrLn fault.text
    return 1
  | .fault fault => do
    err.putStrLn fault.message
    return 1

/-- A run on the disk. -/
def runOnDisk (arguments : List String) : IO UInt32 := do
  let working := Path.names (← IO.currentDir).toString
  let tree ← match Options.parse arguments with
    | .ok (some options) => treeOnDisk options working
    | _ => pure (FileTree.ofEntries working [])
  let result := run (← clock) arguments tree
  let err ← IO.getStderr
  for warning in result.warnings do
    err.putStrLn warning.text
  for line in result.log do
    err.putStrLn line.written
  writeToDisk tree result.tree
  (← IO.getStdout).putStr result.output
  reportEnding err result.ending

end FitProfile.CommandLine

/-- Runs the program. -/
def main (arguments : List String) : IO UInt32 := FitProfile.CommandLine.runOnDisk arguments
