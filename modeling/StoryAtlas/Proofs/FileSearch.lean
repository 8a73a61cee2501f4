import Mathlib.Data.List.Induction
import StoryAtlas.Index.Discovery

/-!
# What a search looks at

The files that a search comes to are given by recursion over the tree. The search itself keeps a
stack of directories. What it has counted and what the directories on its stack hold are together
the same files at every step, in another order, so in the end it has counted each of them once.
-/

namespace StoryAtlas.Disk

mutual

/-- The files in a tree that is seen at `here`, where no directory is entered but those that `opens`
lets pass. -/
def Node.filesBelow (opens : List String → Bool) (here : List String) : Node → List (List String)
  | .file _ => [here]
  | .link _ => []
  | .dir entries => if opens here then Node.filesAmong opens here entries else []

/-- The files in and below the entries of the directory at `here`. -/
def Node.filesAmong (opens : List String → Bool) (here : List String) :
    List (String × Node) → List (List String)
  | [] => []
  | (name, node) :: rest =>
    Node.filesBelow opens (here ++ [name]) node ++ Node.filesAmong opens here rest

end

end StoryAtlas.Disk

namespace StoryAtlas.Proofs
open StoryAtlas.Disk

/-- The directory at `below` has a path that is short enough to be listed. -/
def isListable (root : Path) (below : List String) : Bool :=
  decide ((root.descend below).render.utf8ByteSize ≤ maxPathBytes)

/-- A search enters the directory at `below`: it can list it, and the name is not pruned. -/
def entersDir (root : Path) (pruned below : List String) : Bool :=
  isListable root below && below.getLast?.all fun name => !pruned.contains name

lemma entersDir_nil (root : Path) (pruned : List String) :
    entersDir root pruned [] = isListable root [] := by
  simp [entersDir]

lemma entersDir_append (root : Path) (pruned here : List String) (name : String) :
    entersDir root pruned (here ++ [name]) =
      (isListable root (here ++ [name]) && !pruned.contains name) := by
  simp [entersDir]

/-- The files that pending directories still hold. -/
def filesAhead (root : Path) (pruned : List String) (pending : List PendingDir) :
    List (List String) :=
  pending.flatMap fun dir =>
    if isListable root dir.below then
      Node.filesAmong (entersDir root pruned) dir.below dir.entries
    else []

lemma filesAmong_eq_flatMap (opens : List String → Bool) (here : List String)
    (entries : List (String × Node)) :
    Node.filesAmong opens here entries =
      entries.flatMap fun entry => Node.filesBelow opens (here ++ [entry.1]) entry.2 := by
  induction entries with
  | nil => rfl
  | cons entry entries ih => rw [Node.filesAmong, ih, List.flatMap_cons]

lemma filesAmong_listing_perm (opens : List String → Bool) (root : Path) (dir : PendingDir) :
    (Node.filesAmong opens dir.below (dir.listing root)).Perm
      (if isListable root dir.below then Node.filesAmong opens dir.below dir.entries else []) := by
  unfold PendingDir.listing isListable
  by_cases hlong : maxPathBytes < (root.descend dir.below).render.utf8ByteSize
  · rw [if_pos hlong, if_neg (by simpa using hlong)]
    exact .refl _
  · rw [if_neg hlong, if_pos (by simpa using hlong), filesAmong_eq_flatMap, filesAmong_eq_flatMap]
    exact (Entries.sorted_perm _).flatMap_right _

section Search

variable (cwd root : Path) (filter : FileFilter) (pruned : List String)

/-- Looking at the entries of a directory counts the files among them and puts its directories in
front of the others; together these are what lies below the entries. -/
lemma foldr_meet (here : List String) (entries : List (String × Node)) (search : Search) :
    ∃ dirs files, entries.foldr (Search.meet cwd root filter pruned here) search =
        ⟨dirs ++ search.pending, files.foldl (Discovery.count cwd root filter) search.found⟩ ∧
      (files ++ filesAhead root pruned dirs).Perm
        (Node.filesAmong (entersDir root pruned) here entries) := by
  induction entries with
  | nil => exact ⟨[], [], rfl, .refl _⟩
  | cons entry entries ih =>
    obtain ⟨name, node⟩ := entry
    obtain ⟨dirs, files, hfold, hperm⟩ := ih
    rw [List.foldr_cons, hfold, Node.filesAmong]
    cases node with
    | file content =>
      refine ⟨dirs, files ++ [here ++ [name]], ?_, ?_⟩
      · rw [List.foldl_append]
        rfl
      · rw [Node.filesBelow, List.append_assoc]
        exact List.perm_middle.trans (hperm.cons _)
    | link target =>
      exact ⟨dirs, files, rfl, hperm⟩
    | dir below =>
      rw [Node.filesBelow, entersDir_append]
      by_cases hpruned : pruned.contains name = true
      · refine ⟨dirs, files, ?_, ?_⟩
        · rw [Search.meet, if_pos hpruned]
        · rw [hpruned]
          simpa using hperm
      · refine ⟨⟨here ++ [name], below⟩ :: dirs, files, ?_, ?_⟩
        · rw [Search.meet, if_neg hpruned]
          rfl
        · rw [Bool.not_eq_true _ |>.mp hpruned, Bool.not_false, Bool.and_true, filesAhead,
            List.flatMap_cons]
          refine (List.perm_append_comm_assoc _ _ _).trans ?_
          exact hperm.append_left _

/-- A search counts, in some order, the files that the pending directories hold. The induction is
on the directories that are left in the tree, as the search goes through them. -/
lemma searchFrom_eq_foldl (pending : List PendingDir) (found : Discovery) :
    ∃ files : List (List String), searchFrom cwd root filter pruned pending found =
        files.foldl (Discovery.count cwd root filter) found ∧
      files.Perm (filesAhead root pruned pending) := by
  induction pending, found using searchFrom.induct cwd root filter pruned with
  | case1 found =>
    refine ⟨[], ?_, .refl _⟩
    rw [searchFrom]
    rfl
  | case2 dir pending found after ih =>
    obtain ⟨dirs, here, hfold, hhere⟩ := foldr_meet cwd root filter pruned dir.below
      (dir.listing root) ⟨pending, found⟩
    obtain ⟨files, hsearch, hfiles⟩ := ih
    have hafter : after = ⟨dirs ++ pending,
      here.foldl (Discovery.count cwd root filter) found⟩ := hfold
    rw [hafter] at hsearch hfiles
    refine ⟨here ++ files, ?_, ?_⟩
    · rw [searchFrom, List.foldl_append, ← hsearch]
      exact congrArg (fun search => searchFrom cwd root filter pruned search.pending search.found)
        hafter
    · have hsplit : filesAhead root pruned (dirs ++ pending) =
          filesAhead root pruned dirs ++ filesAhead root pruned pending := List.flatMap_append
      rw [hsplit] at hfiles
      have hfirst := hhere.trans (filesAmong_listing_perm (entersDir root pruned) root dir)
      calc (here ++ files).Perm
            (here ++ (filesAhead root pruned dirs ++ filesAhead root pruned pending)) :=
          hfiles.append_left here
        _ = (here ++ filesAhead root pruned dirs) ++ filesAhead root pruned pending :=
          (List.append_assoc _ _ _).symm
        _ |>.Perm (filesAhead root pruned (dir :: pending)) := hfirst.append_right _

/-- No pattern excludes the file at `below`, and its extension is wanted. -/
def keepsFile (root : Path) (filter : FileFilter) (below : List String) : Bool :=
  filter.admits below && filter.wantsExtension (root.descend below)

/-- What a search that looks at these files finds, before it sorts the paths. -/
def tally (files : List (List String)) : Discovery where
  paths := (files.filter (keepsFile root filter)).map fun below =>
    Path.canonical cwd (root.descend below)
  candidates := files.length
  excludedByGlob := files.countP fun below => !filter.admits below
  excludedByExtension := files.countP fun below =>
    filter.admits below && !filter.wantsExtension (root.descend below)

lemma foldl_count (files : List (List String)) :
    files.foldl (Discovery.count cwd root filter) Discovery.empty = tally cwd root filter files := by
  induction files using List.reverseRecOn with
  | nil => rfl
  | append_singleton files below ih =>
    rw [List.foldl_append, ih]
    unfold tally keepsFile
    cases hadmits : filter.admits below with
    | false => simp [Discovery.count, hadmits]
    | true =>
      cases hwants : filter.wantsExtension (root.descend below) <;>
        simp [Discovery.count, hadmits, hwants]

end Search

/-- The files that a search from `root` looks at. -/
def filesIn (disk : Disk) (pruned : List String) (root : Path) : List (List String) :=
  match disk.nodeAt .target root with
  | .ok (.dir entries) => Node.filesBelow (entersDir root pruned) [] (.dir entries)
  | _ => []

lemma filesAhead_pendingAt (disk : Disk) (pruned : List String) (root : Path) :
    filesAhead root pruned (disk.pendingAt root) = filesIn disk pruned root := by
  unfold Disk.pendingAt filesIn
  cases disk.nodeAt .target root with
  | error fault => rfl
  | ok node =>
    cases node with
    | file content => rfl
    | link target => rfl
    | dir entries => simp [filesAhead, Node.filesBelow, entersDir_nil]

/-- A search finds what belongs to the project among the files it looks at. -/
theorem searchBelow_eq_tally (disk : Disk) (filter : FileFilter) (pruned : List String)
    (root : Path) : ∃ files, files.Perm (filesIn disk pruned root) ∧
      searchBelow disk filter pruned root = { tally disk.cwd root filter files with
        paths := sortPaths (tally disk.cwd root filter files).paths } := by
  obtain ⟨files, hsearch, hperm⟩ := searchFrom_eq_foldl disk.cwd root filter pruned
    (disk.pendingAt root) Discovery.empty
  rw [filesAhead_pendingAt] at hperm
  refine ⟨files, hperm, ?_⟩
  unfold searchBelow
  rw [hsearch, foldl_count]

lemma discover_eq_ok_iff (disk : Disk) (filter : FileFilter) (projectRoot : Path)
    (found : Discovery) : discover disk filter projectRoot = .ok found ↔
      ∃ root, disk.resolve projectRoot = .ok root ∧
        searchBelow disk filter (prunedNames filter.excludeGlobs) root = found := by
  unfold discover
  cases disk.resolve projectRoot <;> simp

/-- The paths that a search finds lead from the resolved root to files that it looks at. -/
lemma exists_of_mem_discover {disk : Disk} {filter : FileFilter} {projectRoot p : Path}
    {found : Discovery} (h : discover disk filter projectRoot = .ok found) (hp : p ∈ found.paths) :
    ∃ root, disk.resolve projectRoot = .ok root ∧
      ∃ below ∈ filesIn disk (prunedNames filter.excludeGlobs) root,
        keepsFile root filter below = true ∧ p = Path.canonical disk.cwd (root.descend below) := by
  obtain ⟨root, hresolve, rfl⟩ := (discover_eq_ok_iff _ _ _ _).mp h
  obtain ⟨files, hperm, hfound⟩ := searchBelow_eq_tally disk filter
    (prunedNames filter.excludeGlobs) root
  rw [hfound] at hp
  obtain ⟨below, hbelow, rfl⟩ := List.mem_map.mp (List.mem_mergeSort.mp hp)
  obtain ⟨hfile, hkept⟩ := List.mem_filter.mp hbelow
  exact ⟨root, hresolve, below, hperm.subset hfile, hkept, rfl⟩

end StoryAtlas.Proofs
