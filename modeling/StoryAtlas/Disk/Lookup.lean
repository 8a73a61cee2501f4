import StoryAtlas.Disk.Fault
import StoryAtlas.Disk.Node
import StoryAtlas.Path

/-!
# Looking a path up

The walk along a path enters one directory after the other and replaces a symbolic link by its
target, at most forty times. A missing last name is not yet an error, since a file can be created
there; but where one is to be created, no slash may follow the last name.
-/

namespace StoryAtlas

open StoryAtlas.Disk

/-- A tree of files, the directory from which relative paths are seen, and how many links can be
resolved within each other: the stack has room for no more. -/
structure Disk where
  tree : Node
  cwd : Path
  linkRoom : Nat
  deriving Inhabited

namespace Disk

/-- Where a walk ends: a place in the tree, and what stands there. -/
structure Spot where
  place : List String
  node : Option Node
  deriving Inhabited

/-- What is wanted at the end of a path: an entry, be it a link, what a link leads to, or a file
that is created if it is missing. -/
inductive Wanted where
  | entry
  | target
  | file
  deriving DecidableEq, Repr

/-- The longest name of a directory entry, in bytes. -/
def maxNameBytes : Nat := 255

/-- The longest path that a call accepts, in bytes. -/
def maxPathBytes : Nat := 4095

/-- The number of links that a walk replaces. -/
def maxLinks : Nat := 40

/-- The components of a link target. -/
def targetParts (target : String) : List String :=
  Text.splitText '/' target

/-- Nothing follows but slashes, and at least one. -/
def isSlashes (rest : List String) : Bool :=
  !rest.isEmpty && rest.all (· == "")

/-- Walks from the place `here` along `names`. A link on the way, or at the end unless it is wanted
itself, is handed to `expand` with the names that remain. -/
def walkWith (tree : Node) (wanted : Wanted)
    (expand : List String → List String → Except OsError Spot) (here : List String) :
    List String → Except OsError Spot
  | [] =>
    match tree.get? here with
    | some node => .ok ⟨here, some node⟩
    | none => .error .notFound
  | name :: rest =>
    match tree.get? here with
    | some (.dir entries) =>
      if name = "" ∨ name = "." then walkWith tree wanted expand here rest
      else if name = ".." then walkWith tree wanted expand here.dropLast rest
      else if wanted = .file ∧ isSlashes rest then .error .isDirectory
      else if maxNameBytes < name.utf8ByteSize then .error .nameTooLong
      else
        match entries.lookup name with
        | none => if rest.isEmpty then .ok ⟨here ++ [name], none⟩ else .error .notFound
        | some (.link target) =>
          if rest.isEmpty ∧ wanted = .entry then .ok ⟨here ++ [name], some (.link target)⟩
          else
            expand (if Anchor.ofChars target.toList = .relative then here else [])
              (targetParts target ++ rest)
        | some _ => walkWith tree wanted expand (here ++ [name]) rest
    | some _ => .error .notDirectory
    | none => .error .notFound

/-- Walks with a bound on the number of links. -/
def walk (tree : Node) (wanted : Wanted) : Nat → List String → List String → Except OsError Spot
  | 0 => fun _ _ => .error .tooManyLinks
  | links + 1 => walkWith tree wanted (walk tree wanted links)

/-- Looks a path up. -/
def locate (disk : Disk) (wanted : Wanted) (p : Path) : Except Fault Spot :=
  let text := p.render
  if text.toList.contains (Char.ofNat 0) then .error .nulInPath
  else if maxPathBytes < text.utf8ByteSize then .error (.os .nameTooLong)
  else
    let start := if p.anchor = .relative then disk.cwd.parts else []
    match walk disk.tree wanted (maxLinks + 1) start p.parts with
    | .ok spot => .ok spot
    | .error e => .error (.os e)

/-- What stands at a path. -/
def nodeAt (disk : Disk) (wanted : Wanted) (p : Path) : Except Fault Node :=
  match disk.locate wanted p with
  | .error e => .error e
  | .ok ⟨_, some node⟩ => .ok node
  | .ok ⟨_, none⟩ => .error (.os .notFound)

/-- Answers no for a path that leads nowhere; a name or path that is too long is an error. -/
def asks (disk : Disk) (test : Node → Bool) (p : Path) : Except Fault Bool :=
  match disk.nodeAt .target p with
  | .ok node => .ok (test node)
  | .error (.os .nameTooLong) => .error (.os .nameTooLong)
  | .error _ => .ok false

/-- There is something at the path. -/
def hasNode (disk : Disk) (p : Path) : Except Fault Bool :=
  disk.asks (fun _ => true) p

/-- There is a file at the path. -/
def hasFile (disk : Disk) (p : Path) : Except Fault Bool :=
  disk.asks (fun | .file _ => true | _ => false) p

/-- There is a directory at the path. -/
def hasDir (disk : Disk) (p : Path) : Except Fault Bool :=
  disk.asks (fun | .dir _ => true | _ => false) p

/-- The bytes of the file at a path. -/
def readBytes (disk : Disk) (p : Path) : Except Fault ByteArray :=
  match disk.nodeAt .target p with
  | .ok (.file content) => .ok content
  | .ok _ => .error (.os .isDirectory)
  | .error e => .error e

/-- The text of the file at a path. -/
def readText (disk : Disk) (p : Path) : Except Fault String :=
  match disk.readBytes p with
  | .error e => .error e
  | .ok content =>
    match String.fromUTF8? content with
    | some text => .ok text
    | none => .error .notUtf8

end Disk

end StoryAtlas
