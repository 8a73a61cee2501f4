import StoryAtlas.Index.Basic
import StoryAtlas.Index.Discovery
import StoryAtlas.Index.Source

/-!
# Building the index

A build reads a list of files from disk. Reading comes first: it sorts the files into those that
were loaded and those that were not. Then the loaded files are merged into the index in one step.
-/

namespace StoryAtlas

open StoryAtlas.Disk StoryAtlas.Story

/-- A file that a build could not read. -/
structure Failure where
  path : Path
  reason : String
  deriving DecidableEq, Repr

/-- What a build has read. -/
structure Harvest where
  loaded : List StoryFile
  failures : List Failure

/-- The outcome of a build. -/
structure Report where
  indexed : List Path
  failures : List Failure
  durationMs : Nat
  timestamp : String
  deriving DecidableEq, Repr

namespace Harvest

/-- Adds the outcome of reading one more file in front. -/
def cons (path : Path) (outcome : Except ReadFailure String) (harvest : Harvest) : Harvest :=
  match outcome with
  | .ok text => { harvest with loaded := StoryFile.read path text :: harvest.loaded }
  | .error failure =>
    { harvest with failures := ⟨path, failure.reason⟩ :: harvest.failures }

/-- Reads the files at canonical paths. One path with a NUL character spoils them all. -/
def gather (disk : Disk) (maxBytes : Int) : List Path → Except Fault Harvest
  | [] => .ok ⟨[], []⟩
  | path :: paths =>
    match disk.readStory maxBytes path with
    | .error e => .error e
    | .ok outcome =>
      match gather disk maxBytes paths with
      | .error e => .error e
      | .ok harvest => .ok (harvest.cons path outcome)

/-- What is reported about the files that were not read. -/
def failureEvents (harvest : Harvest) : List Event :=
  harvest.failures.map fun failure => .readFailed failure.path failure.reason

/-- What is reported about the build as a whole. -/
def buildEvent (harvest : Harvest) (durationMs : Nat) : Event :=
  .build harvest.loaded.length harvest.failures.length durationMs

/-- The report on a build at the given time that has taken so long. -/
def report (harvest : Harvest) (timestamp : String) (durationMs : Nat) : Report :=
  ⟨harvest.loaded.map StoryFile.path, harvest.failures, durationMs, timestamp⟩

end Harvest

namespace Index

/-- The canonical paths of a list of files, each once, in the order of their first mention. -/
def keys (index : Index) (paths : List Path) : List Path :=
  (paths.map index.key).eraseDups

/-- Reads a list of files. -/
def gather (index : Index) (disk : Disk) (maxBytes : Int) (paths : List Path) :
    Except Fault Harvest :=
  Harvest.gather disk maxBytes (index.keys paths)

/-- Merges the loaded files into the index: what the last build had loaded stays only if it was
loaded again. -/
def merge (index : Index) (loaded : List StoryFile) (timestamp : String) : Index :=
  let paths := loaded.map StoryFile.path
  let kept := index.files.filter fun entry =>
    !index.built.contains entry.1 || paths.contains entry.1
  { index with
    files := loaded.foldl (fun files file => putIn file.path file files) kept
    lastBuild := some timestamp
    built := paths }

/-- Reads a list of files and merges them, at the given time. The duration is measured. -/
def build (index : Index) (disk : Disk) (maxBytes : Int) (paths : List Path)
    (timestamp : String) (durationMs : Nat) : Except Fault (Index × Report × List Event) :=
  match index.gather disk maxBytes paths with
  | .error e => .error e
  | .ok harvest =>
    .ok (index.merge harvest.loaded timestamp, harvest.report timestamp durationMs,
      harvest.failureEvents ++ [harvest.buildEvent durationMs])

/-- Builds the index from the story files of a project. -/
def buildProject (index : Index) (disk : Disk) (maxBytes : Int) (filter : FileFilter)
    (projectRoot : Path) (timestamp : String) (durationMs : Nat) :
    Except Fault (Index × Report × List Event) :=
  match discover disk filter projectRoot with
  | .error e => .error e
  | .ok found => index.build disk maxBytes found.paths timestamp durationMs

end Index

end StoryAtlas
