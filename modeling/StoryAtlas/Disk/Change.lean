import StoryAtlas.Disk.Lookup

/-!
# Changing the disk

Directories are made one level at a time, and a file is created by writing to it. A link at the end
of a path is followed by a write and kept by the making of a directory.
-/

namespace StoryAtlas.Disk

/-- Makes one directory. -/
def makeDir (disk : Disk) (p : Path) : Except Fault Disk :=
  match disk.locate .entry p with
  | .error e => .error e
  | .ok ⟨_, some _⟩ => .error (.os .alreadyExists)
  | .ok ⟨place, none⟩ => .ok { disk with tree := disk.tree.set place (.dir []) }

/-- Makes a directory that may already be there. -/
def ensureDir (disk : Disk) (p : Path) : Except Fault Disk :=
  match disk.makeDir p with
  | .ok disk => .ok disk
  | .error (.os .notFound) => .error (.os .notFound)
  | .error .nulInPath => .error .nulInPath
  | .error e =>
    match disk.hasDir p with
    | .ok true => .ok disk
    | .ok false => .error e
    | .error e => .error e

/-- Makes a directory at the anchor with the components `backwards`, the last first, together with
the directories above it that are missing. -/
def ensureDirsFrom (disk : Disk) (anchor : Anchor) : List String → Except Fault Disk
  | [] => disk.ensureDir ⟨anchor, []⟩
  | name :: above =>
    let p : Path := ⟨anchor, (name :: above).reverse⟩
    match disk.ensureDir p with
    | .error (.os .notFound) =>
      match ensureDirsFrom disk anchor above with
      | .error e => .error e
      | .ok disk => disk.ensureDir p
    | result => result

/-- Makes a directory together with the directories above it that are missing. -/
def ensureDirs (disk : Disk) (p : Path) : Except Fault Disk :=
  disk.ensureDirsFrom p.anchor p.parts.reverse

/-- Changes the bytes of a file, which is created where there is none. -/
def updateFile (disk : Disk) (p : Path) (change : ByteArray → ByteArray) : Except Fault Disk :=
  match disk.locate .file p with
  | .error e => .error e
  | .ok ⟨place, some (.file content)⟩ =>
    .ok { disk with tree := disk.tree.set place (.file (change content)) }
  | .ok ⟨_, some _⟩ => .error (.os .isDirectory)
  | .ok ⟨place, none⟩ =>
    .ok { disk with tree := disk.tree.set place (.file (change ByteArray.empty)) }

/-- Writes behind the end of a file. -/
def append (disk : Disk) (p : Path) (bytes : ByteArray) : Except Fault Disk :=
  disk.updateFile p (· ++ bytes)

/-- Writes a whole file. -/
def write (disk : Disk) (p : Path) (bytes : ByteArray) : Except Fault Disk :=
  disk.updateFile p fun _ => bytes

/-- Makes a symbolic link. -/
def makeLink (disk : Disk) (p : Path) (target : String) : Except Fault Disk :=
  match disk.locate .entry p with
  | .error e => .error e
  | .ok ⟨_, some _⟩ => .error (.os .alreadyExists)
  | .ok ⟨place, none⟩ => .ok { disk with tree := disk.tree.set place (.link target) }

/-- Takes away what stands at a path, with everything below it; a link is taken away itself. -/
def remove (disk : Disk) (p : Path) : Except Fault Disk :=
  match disk.locate .entry p with
  | .error e => .error e
  | .ok ⟨_, none⟩ => .error (.os .notFound)
  | .ok ⟨place, some _⟩ => .ok { disk with tree := disk.tree.erase place }

end StoryAtlas.Disk
