import StoryAtlas.Disk.Resolve
import StoryAtlas.Glob
import StoryAtlas.Text.Lowercase

/-!
# Finding story files

A project is searched for the files whose extension is wanted and whose path below the project root
matches no exclusion pattern. Symbolic links are neither followed nor taken for files. A directory
that a pattern of the form `**/name/**` excludes by its name is not entered at all, and one that
cannot be listed is passed over. The directories still to be listed stand on a stack.
-/

namespace StoryAtlas

open StoryAtlas.Disk

/-- Which files belong to a project. -/
structure FileFilter where
  extensions : List String
  excludeGlobs : List String
  deriving DecidableEq, Repr, Inhabited

/-- A pattern matches the path below the root, or that path with a slash in front. -/
def isExcluded (globs : List String) (relative : String) : Bool :=
  globs.any fun pattern => globMatches pattern relative || globMatches pattern ("/" ++ relative)

/-- The characters with a meaning in patterns. -/
def isGlobChar (c : Char) : Bool :=
  ['*', '?', '[', ']', '{', '}'].contains c

/-- Drops the slashes at both ends. -/
def trimSlashes (cs : List Char) : List Char :=
  ((cs.dropWhile (· == '/')).reverse.dropWhile (· == '/')).reverse

/-- The directory name that a pattern excludes: what stands between `**/` and `/**`, unless it is
empty or itself a pattern. -/
def prunedName? (pattern : String) : Option String :=
  let cs := pattern.toList
  if ['*', '*', '/'].isPrefixOf cs && ['/', '*', '*'].isSuffixOf cs then
    let name := trimSlashes ((cs.drop 3).take (cs.length - 6))
    if name.isEmpty || name.any isGlobChar then none else some (String.ofList name)
  else none

/-- The names of directories that are not entered. -/
def prunedNames (globs : List String) : List String :=
  globs.filterMap prunedName?

/-- What a search found, with the number of files it looked at and of those it left out. -/
structure Discovery where
  paths : List Path
  candidates : Nat
  excludedByGlob : Nat
  excludedByExtension : Nat
  deriving DecidableEq, Repr, Inhabited

/-- The extension of a file is wanted. -/
def FileFilter.wantsExtension (filter : FileFilter) (file : Path) : Bool :=
  (filter.extensions.map Text.lower).contains (Text.lower file.fileExtension)

/-- No pattern excludes the file with these components below the root. -/
def FileFilter.admits (filter : FileFilter) (below : List String) : Bool :=
  !isExcluded filter.excludeGlobs (Path.render ⟨.relative, below⟩)

/-- Sorts paths by their text. -/
def sortPaths (paths : List Path) : List Path :=
  paths.mergeSort fun a b => decide (a.render ≤ b.render)

/-- The path that leads from `root` down along the names. -/
def Path.descend (root : Path) (below : List String) : Path :=
  ⟨root.anchor, root.parts ++ below⟩

namespace Discovery

/-- What was found before a search begins. -/
def empty : Discovery :=
  ⟨[], 0, 0, 0⟩

/-- Counts one more file, which stands at `below` seen from the root, and keeps it if it belongs to
the project. -/
def count (cwd root : Path) (filter : FileFilter) (found : Discovery) (below : List String) :
    Discovery :=
  let counted := { found with candidates := found.candidates + 1 }
  if !filter.admits below then { counted with excludedByGlob := found.excludedByGlob + 1 }
  else if !filter.wantsExtension (root.descend below) then
    { counted with excludedByExtension := found.excludedByExtension + 1 }
  else { counted with paths := found.paths ++ [Path.canonical cwd (root.descend below)] }

end Discovery

/-- A directory that a search has still to list: its names below the root, and what it holds. -/
structure PendingDir where
  below : List String
  entries : Entries
  deriving Inhabited

/-- What listing a directory gives, in the order of the names. A path that is too long for a call
cannot be listed and gives nothing. -/
def PendingDir.listing (root : Path) (dir : PendingDir) : Entries :=
  if maxPathBytes < (root.descend dir.below).render.utf8ByteSize then []
  else dir.entries.sorted

/-- A search under way: the directories that are still to be listed, the next one first, and what
was found. -/
structure Search where
  pending : List PendingDir
  found : Discovery

/-- Looks at one entry of the directory at `here`: a directory is put off unless it is pruned, a
file is counted, and a link is passed over. -/
def Search.meet (cwd root : Path) (filter : FileFilter) (pruned here : List String)
    (entry : String × Node) (search : Search) : Search :=
  match entry with
  | (name, .dir entries) =>
    if pruned.contains name then search
    else { search with pending := ⟨here ++ [name], entries⟩ :: search.pending }
  | (name, .file _) =>
    { search with found := search.found.count cwd root filter (here ++ [name]) }
  | (_, .link _) => search

/-- The number of directories in those that are still to be listed. -/
def pendingCount : List PendingDir → Nat
  | [] => 0
  | dir :: pending => Node.dirCountIn dir.entries + 1 + pendingCount pending

theorem pendingCount_meet_le (cwd root : Path) (filter : FileFilter) (pruned here : List String)
    (entries : Entries) (search : Search) :
    pendingCount (entries.foldr (Search.meet cwd root filter pruned here) search).pending ≤
      Node.dirCountIn entries + pendingCount search.pending := by
  induction entries with
  | nil => simp [Node.dirCountIn]
  | cons entry entries ih =>
    obtain ⟨name, node⟩ := entry
    cases node with
    | file content =>
      simp only [List.foldr_cons, Search.meet, Node.dirCountIn]
      omega
    | link target =>
      simp only [List.foldr_cons, Search.meet, Node.dirCountIn]
      omega
    | dir below =>
      simp only [List.foldr_cons, Search.meet, Node.dirCountIn, Node.dirCount]
      split
      · omega
      · simp only [pendingCount]
        omega

theorem dirCountIn_listing_le (root : Path) (dir : PendingDir) :
    Node.dirCountIn (dir.listing root) ≤ Node.dirCountIn dir.entries := by
  unfold PendingDir.listing
  split
  · exact Nat.zero_le _
  · exact Nat.le_of_eq (Node.dirCountIn_perm (Entries.sorted_perm _))

/-- Lists the pending directories one after the other, and those met on the way before the others.
The entries of a directory are looked at backwards, so that its first directory comes next. -/
def searchFrom (cwd root : Path) (filter : FileFilter) (pruned : List String) :
    List PendingDir → Discovery → Discovery
  | [], found => found
  | dir :: pending, found =>
    let after := (dir.listing root).foldr (Search.meet cwd root filter pruned dir.below)
      ⟨pending, found⟩
    searchFrom cwd root filter pruned after.pending after.found
  termination_by pending => pendingCount pending
  decreasing_by
    have hafter := pendingCount_meet_le cwd root filter pruned dir.below (dir.listing root)
      ⟨pending, found⟩
    have hlisting := dirCountIn_listing_le root dir
    simp only [pendingCount] at hafter ⊢
    omega

/-- The directory at which a search starts; none where the root is no directory. -/
def Disk.pendingAt (disk : Disk) (root : Path) : List PendingDir :=
  match disk.nodeAt .target root with
  | .ok (.dir entries) => [⟨[], entries⟩]
  | _ => []

/-- Searches below a root that is resolved, without entering directories with these names. -/
def searchBelow (disk : Disk) (filter : FileFilter) (pruned : List String) (root : Path) :
    Discovery :=
  let found := searchFrom disk.cwd root filter pruned (disk.pendingAt root) Discovery.empty
  { found with paths := sortPaths found.paths }

/-- Searches a project for story files. -/
def discover (disk : Disk) (filter : FileFilter) (projectRoot : Path) : Except Fault Discovery :=
  match disk.resolve projectRoot with
  | .error e => .error e
  | .ok root => .ok (searchBelow disk filter (prunedNames filter.excludeGlobs) root)

end StoryAtlas
