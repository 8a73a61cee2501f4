import Std.Time.DateTime.Timestamp
import StoryAtlas.Cli.Run

/-!
# The program

The outer layer reads the trees that a run can see into a `Disk`, lets the library answer one line
of input after the other, prints the replies, and writes to the files on disk what the library has
added to its journals. The trees are read anew for every line, since an editor may have changed
them.
-/

namespace StoryAtlas.Program

open StoryAtlas.Disk

/-- The clock as a timestamp. -/
def now : IO String := do
  return timestamp (Int.fdiv (← Std.Time.Timestamp.now).toNanosecondsSinceUnixEpoch.val 1000)

/-- The brackets within each other that are read, and the links that are resolved. -/
def room : Nat := 900

/-- The path without symbolic links, or the path itself if nothing is there. -/
def realPath (p : Path) : IO Path := do
  try return Path.ofString (← IO.FS.realPath p.render).toString
  catch _ => return p

/-- Reads the tree at a path. A link is read as the place that it leads to, and what cannot be read
is left out. -/
partial def readNode (p : Path) : IO (Option Node) := do
  let place := (← IO.currentDir) / p.render
  try
    match (← place.symlinkMetadata).type with
    | .file => return some (.file (← IO.FS.readBinFile place))
    | .symlink => return some (.link (← realPath p).render)
    | .other => return none
    | .dir =>
      let entries ← (← place.readDir).toList.filterMapM fun entry => do
        return (← readNode (p.child entry.fileName)).map fun node => (entry.fileName, node)
      return some (.dir entries)
  catch _ => return none

/-- Adds the tree at an absolute path to a disk. -/
def addTree (disk : Disk) (p : Path) : IO Disk := do
  let real ← realPath p
  let disk := (disk.ensureDirs real.parent).toOption.getD disk
  let disk ← match ← readNode real with
    | none => pure disk
    | some node =>
      pure { disk with tree := if real.parts.isEmpty then node else disk.tree.set real.parts node }
  if real = p then return disk
  let disk := (disk.ensureDirs p.parent).toOption.getD disk
  return (disk.makeLink p real.render).toOption.getD disk

/-- The directories that a run with these options looks into. -/
def visible (cwd : Path) (options : Cli.Options) : List Path :=
  (options.projectRoot :: options.dataDir.toList).map fun dir =>
    Path.canonical cwd (Path.ofString dir)

/-- Reads the disk as far as a run with these options looks into it. -/
def readDisk (options : Cli.Options) : IO Disk := do
  let cwd := Path.ofString (← IO.currentDir).toString
  let bare : Disk := ⟨.dir [], cwd, room⟩
  (visible cwd options).foldlM addTree ((bare.ensureDirs cwd).toOption.getD bare)

/-- Reads the disk and the clock. What takes time in a build is to read the files. -/
def look (options : Cli.Options) : IO (Disk × Moment) := do
  let begun ← IO.monoMsNow
  let disk ← readDisk options
  let ended ← IO.monoMsNow
  return (disk, ⟨← now, ended - begun, room, room⟩)

/-- Writes what a step has added to a file. -/
def writeBack (before after : Disk) (file : Path) : IO Unit := do
  let old := (before.readBytes file).toOption.getD ByteArray.empty
  let new := (after.readBytes file).toOption.getD ByteArray.empty
  if old.size < new.size then
    IO.FS.withFile file.render .append fun handle => handle.write (new.extract old.size new.size)

/-- Writes what a step has added to the journals. -/
def writeJournals (before : Disk) (session : Session) : IO Unit := do
  writeBack before session.disk session.auditFile
  writeBack before session.disk session.indexFile

/-- Ends a run without an answer. -/
def finish (ending : Cli.Ending) : IO UInt32 := do
  match ending with
  | .help => IO.println Cli.usageLine
  | .usage message =>
    IO.eprintln Cli.usageLine
    IO.eprintln (Cli.errorLine message)
  | .stopped fault => IO.eprintln (Cli.errorLine fault.message)
  | .served lines => lines.forM IO.println
  return UInt32.ofNat ending.exitCode

/-- Answers the input line by line. -/
partial def serve (options : Cli.Options) (session : Session) : IO UInt32 := do
  let line ← (← IO.getStdin).getLine
  if line.isEmpty then return 0
  let (disk, moment) ← look options
  match { session with disk := disk }.serveLines (fun _ => moment) [line] with
  | (session, .error fault) =>
    writeJournals disk session
    finish (.stopped fault)
  | (session, .ok replies) =>
    writeJournals disk session
    replies.forM IO.println
    (← IO.getStdout).flush
    serve options session

/-- Opens the project and serves it. -/
def start (options : Cli.Options) : IO UInt32 := do
  let (disk, moment) ← look options
  match Cli.begin disk moment options with
  | .error ending => finish ending
  | .ok session =>
    IO.FS.createDirAll session.config.dataDir.render
    writeJournals disk session
    serve options session

end StoryAtlas.Program

/-- Runs the program. -/
def main (arguments : List String) : IO UInt32 := do
  match StoryAtlas.Cli.readArguments arguments with
  | .error e => StoryAtlas.Program.finish (.usage e.message)
  | .ok .help => StoryAtlas.Program.finish .help
  | .ok (.run options) => StoryAtlas.Program.start options
