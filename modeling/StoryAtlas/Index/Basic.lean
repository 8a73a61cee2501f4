import StoryAtlas.Story.File

/-!
# The index

The index holds the story files that are known, at most one for each canonical path. Files come in
from editors, one at a time, and from builds, which read the files of a project from disk. A build
forgets what the build before it had loaded and it could not load again; files that only editors
have brought in stay.
-/

namespace StoryAtlas

open StoryAtlas.Story

/-- The known story files in the order in which they came in, the time of the last build, and the
paths that it loaded. Relative paths are seen from `base`. -/
structure Index where
  base : Path
  files : List (Path × StoryFile)
  lastBuild : Option String
  built : List Path
  deriving Repr, Inhabited

/-- What happens to an index. -/
inductive Event where
  | readFailed (path : Path) (reason : String)
  | build (indexed failed durationMs : Nat)
  | update (path : Path) (lineCount : Int)
  | remove (path : Path)
  deriving DecidableEq, Repr

namespace Index

/-- The index without files. -/
def empty (base : Path) : Index :=
  ⟨base, [], none, []⟩

/-- The canonical path by which a file is known. -/
def key (index : Index) (p : Path) : Path :=
  Path.canonical index.base p

/-- The file known by a canonical path. -/
def entry? (index : Index) (key : Path) : Option StoryFile :=
  index.files.lookup key

/-- The file known by any spelling of its path. -/
def get? (index : Index) (p : Path) : Option StoryFile :=
  index.entry? (index.key p)

/-- Replaces the file at a path, or adds it behind the others. -/
def putIn (key : Path) (file : StoryFile) : List (Path × StoryFile) → List (Path × StoryFile)
  | [] => [(key, file)]
  | (k, f) :: rest => if k = key then (key, file) :: rest else (k, f) :: putIn key file rest

/-- Puts a file under its own path. -/
def put (index : Index) (file : StoryFile) : Index :=
  { index with files := putIn file.path file index.files }

/-- Takes in the text that an editor has for a file. -/
def update (index : Index) (p : Path) (text : String) : Index × StoryFile :=
  let file := StoryFile.read (index.key p) text
  (index.put file, file)

/-- What an update reports. -/
def updateEvent (file : StoryFile) : Event :=
  .update file.path file.outline.lineCount

/-- Forgets a file, and tells whether it was known. -/
def remove (index : Index) (p : Path) : Index × Bool :=
  let key := index.key p
  if (index.entry? key).isSome then
    ({ index with files := index.files.filter fun entry => entry.1 != key }, true)
  else (index, false)

/-- The known paths in the order of their texts. -/
def sortedPaths (index : Index) : List String :=
  (index.files.map fun entry => entry.1.render).mergeSort fun a b => decide (a ≤ b)

/-- The number of knots with a name in all files. -/
def knotCount (index : Index) : Nat :=
  (index.files.flatMap fun entry => entry.2.outline.knots.filter (·.name.isSome)).length

/-- A summary of the index. -/
structure Status where
  isReady : Bool
  lastBuild : Option String
  fileCount : Nat
  knotCount : Nat
  deriving DecidableEq, Repr

/-- The word for the state of the index. -/
def Status.label (status : Status) : String :=
  if status.isReady then "ready" else "not_indexed"

/-- An index is ready once it has been built or holds a file. -/
def status (index : Index) : Status where
  isReady := !index.files.isEmpty || index.lastBuild.isSome
  lastBuild := index.lastBuild
  fileCount := index.files.length
  knotCount := index.knotCount

end Index

end StoryAtlas
