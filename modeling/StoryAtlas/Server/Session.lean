import StoryAtlas.Config.Load
import StoryAtlas.Index.Build
import StoryAtlas.Log.Journal
import StoryAtlas.Log.Record

/-!
# Sessions

A session is a running server together with the disk it works on: its configuration, its index, and
the number of ids it has handed out. What happens to the index is written to a journal, and where
that fails the change of the index remains.
-/

namespace StoryAtlas

open StoryAtlas.Disk

/-- What a call finds when it is made: the time, the time that a build takes, and how many brackets
within each other the stack has room for when a line of input is read and when a journal is. -/
structure Moment where
  timestamp : String
  buildMs : Nat
  lineRoom : Nat
  logRoom : Nat
  deriving DecidableEq, Repr, Inhabited

/-- What is found by the calls to come, one after the other. -/
abbrev Clock := Nat → Moment

/-- The clock after the first call. -/
def Clock.tail (clock : Clock) : Clock :=
  fun n => clock (n + 1)

/-- A server at work. -/
structure Session where
  config : Config
  index : Index
  usedIds : Nat
  disk : Disk
  deriving Inhabited

namespace Session

/-- The journal of requests. -/
def auditFile (session : Session) : Path :=
  session.config.dataDir.child "audit.jsonl"

/-- The journal of the index. -/
def indexFile (session : Session) : Path :=
  session.config.dataDir.child "index.jsonl"

/-- Starts a server with a complete configuration and an empty index. -/
def start (config : Config) (disk : Disk) : Except StartError Session :=
  let session : Session := ⟨config, Index.empty disk.cwd, 0, disk⟩
  match Journal.create disk session.auditFile with
  | .error e => .error (.disk e)
  | .ok disk =>
    match Journal.create disk session.indexFile with
    | .error e => .error (.disk e)
    | .ok disk => .ok { session with disk := disk }

/-- The overrides with a directory for logs that counts where they name none. -/
def withDataDir (disk : Disk) (dataDir : Option Path) (overrides : Overrides) :
    Except StartError Overrides :=
  match dataDir, overrides.dataDir with
  | some dir, none =>
    match disk.resolve dir with
    | .error e => .error (.disk e)
    | .ok dir => .ok { overrides with dataDir := some dir }
  | _, _ => .ok overrides

/-- Loads the configuration of a project and starts a server for it. -/
def openProject (disk : Disk) (projectRoot : Path) (dataDir : Option Path)
    (overrides : Overrides) : Except StartError Session :=
  match withDataDir disk dataDir overrides with
  | .error e => .error e
  | .ok overrides =>
    match disk.resolve projectRoot with
    | .error e => .error (.disk e)
    | .ok root =>
      match Config.load disk root overrides with
      | .error e => .error e
      | .ok config => start config disk

/-- Writes an event of the index to its journal. -/
def emit (session : Session) (now : Moment) (event : Event) : Except Fault Session :=
  match Journal.append now.logRoom session.disk session.indexFile []
      (event.record now.timestamp).toJson with
  | .error e => .error e
  | .ok disk => .ok { session with disk := disk }

/-- Writes events one after the other, up to the first that cannot be written. -/
def emitAll (session : Session) (now : Moment) : List Event → Session × Except Fault Unit
  | [] => (session, .ok ())
  | event :: events =>
    match session.emit now event with
    | .error e => (session, .error e)
    | .ok session => session.emitAll now events

/-- Merges what a build has read into the index. The files that could not be read are written to the
journal before, the build as a whole after. -/
def commit (session : Session) (now : Moment) (harvest : Harvest) :
    Session × Except Fault Report :=
  match session.emitAll now harvest.failureEvents with
  | (session, .error e) => (session, .error e)
  | (session, .ok ()) =>
    let merged := { session with index := session.index.merge harvest.loaded now.timestamp }
    match merged.emit now (harvest.buildEvent now.buildMs) with
    | .error e => (merged, .error e)
    | .ok session => (session, .ok (harvest.report now.timestamp now.buildMs))

/-- Reads the story files of the project and merges them into the index. -/
def build (session : Session) (now : Moment) : Session × Except Fault Report :=
  match discover session.disk session.config.filter session.config.projectRoot with
  | .error e => (session, .error e)
  | .ok found =>
    match session.index.gather session.disk session.config.limits.maxFileBytes found.paths with
    | .error e => (session, .error e)
    | .ok harvest => session.commit now harvest

/-- Takes in the text that an editor has for a file. -/
def update (session : Session) (now : Moment) (p : Path) (text : String) :
    Session × Except Fault Story.StoryFile :=
  let (index, file) := session.index.update p text
  let updated := { session with index := index }
  match updated.emit now (Index.updateEvent file) with
  | .error e => (updated, .error e)
  | .ok session => (session, .ok file)

/-- A path as replies show it: seen from the project root if it lies within. -/
def display (session : Session) (p : Path) : String :=
  let root := session.config.projectRoot
  if root.isWithin p then (root.below p).render else p.render

end Session

end StoryAtlas
