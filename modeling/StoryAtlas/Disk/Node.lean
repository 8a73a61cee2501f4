/-!
# Trees of files

What a disk holds below its root is a finite tree of files, symbolic links and directories. A place
in the tree is the list of names on the way to it; nothing in this module follows a link.
-/

namespace StoryAtlas.Disk

/-- A file with its bytes, a symbolic link with its target, or a directory. -/
inductive Node where
  | file (content : ByteArray)
  | link (target : String)
  | dir (entries : List (String × Node))
  deriving Inhabited

/-- The names in a directory with what they stand for. -/
abbrev Entries := List (String × Node)

namespace Entries

/-- Changes what one name stands for: nothing there means that the name is not in the directory. -/
def alter (name : String) (change : Option Node → Option Node) : Entries → Entries
  | [] =>
    match change none with
    | none => []
    | some node => [(name, node)]
  | (key, node) :: rest =>
    if key = name then
      match change (some node) with
      | none => rest
      | some node => (key, node) :: rest
    else (key, node) :: alter name change rest

/-- Puts an entry in front of the first one whose name does not come before its own. -/
def place (entry : String × Node) : Entries → Entries
  | [] => [entry]
  | next :: rest =>
    if entry.1 ≤ next.1 then entry :: next :: rest else next :: place entry rest

/-- The entries of a directory in the order of their names. -/
def sorted (entries : Entries) : Entries :=
  entries.foldr place []

theorem place_perm (entry : String × Node) (entries : Entries) :
    (place entry entries).Perm (entry :: entries) := by
  induction entries with
  | nil => exact .refl _
  | cons next rest ih =>
    unfold place
    split
    · exact .refl _
    · exact (ih.cons next).trans (.swap entry next rest)

theorem sorted_perm (entries : Entries) : entries.sorted.Perm entries := by
  induction entries with
  | nil => exact .refl _
  | cons entry rest ih => exact (place_perm entry _).trans (ih.cons entry)

end Entries

namespace Node

/-- What a name stands for in a directory. -/
def child? (node : Node) (name : String) : Option Node :=
  match node with
  | dir entries => entries.lookup name
  | _ => none

/-- The node at a place. -/
def get? (node : Node) : List String → Option Node
  | [] => some node
  | name :: rest =>
    match node.child? name with
    | none => none
    | some node => node.get? rest

/-- Changes what the last name on the way to a place stands for; a place whose directory does not
exist is left alone. -/
def alter (change : Option Node → Option Node) : List String → Node → Node
  | [name], dir entries => dir (Entries.alter name change entries)
  | name :: rest, dir entries =>
    dir (Entries.alter name (fun found => found.map (alter change rest)) entries)
  | _, node => node

/-- Puts a node at a place whose directory exists. -/
def set (node : Node) (place : List String) (new : Node) : Node :=
  node.alter (fun _ => some new) place

/-- Takes away the node at a place, with everything below it. -/
def erase (node : Node) (place : List String) : Node :=
  node.alter (fun _ => none) place

mutual

/-- The number of directories in a tree. -/
def dirCount : Node → Nat
  | file _ => 0
  | link _ => 0
  | dir entries => dirCountIn entries + 1

/-- The number of directories below the entries of a directory. -/
def dirCountIn : List (String × Node) → Nat
  | [] => 0
  | (_, node) :: rest => dirCount node + dirCountIn rest

end

theorem dirCountIn_perm {entries others : List (String × Node)} (h : entries.Perm others) :
    dirCountIn entries = dirCountIn others := by
  induction h with
  | nil => rfl
  | cons entry _ ih => simp only [dirCountIn, ih]
  | swap entry next rest =>
    simp only [dirCountIn]
    omega
  | trans _ _ ih ih' => exact ih.trans ih'

end Node

end StoryAtlas.Disk
