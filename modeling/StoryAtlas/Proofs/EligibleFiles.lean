import Mathlib.Data.List.Nodup
import StoryAtlas.Proofs.ProperTrees

/-!
# Files that a search finds

A search below a root that resolves counts every file to which directories that are neither pruned
nor links lead down from the root, and it counts it once. It finds the eligible ones among them, in
the order of their texts. A file whose directory has a path that is too long for a call stays
unseen.
-/

namespace StoryAtlas.Proofs
open StoryAtlas.Disk

/-- A search from `root` comes to the file at `below`: directories lead down to it, none of them
with a pruned name, and the last of them can be listed. -/
structure IsCandidate (disk : Disk) (pruned : List String) (root : Path) (below : List String) :
    Prop where
  isFile : ∃ entries content, disk.nodeAt .target root = .ok (.dir entries) ∧
    (Node.dir entries).get? below = some (.file content)
  entered : ∀ name ∈ below.dropLast, name ∉ pruned
  listed : (root.descend below.dropLast).render.utf8ByteSize ≤ maxPathBytes

/-- No pattern excludes the file at `below`, and its extension is wanted in either case. -/
structure IsEligible (filter : FileFilter) (root : Path) (below : List String) : Prop where
  admitted : isExcluded filter.excludeGlobs (Path.render ⟨.relative, below⟩) = false
  wanted : Text.lower (root.descend below).fileExtension ∈ filter.extensions.map Text.lower

lemma keepsFile_iff (root : Path) (filter : FileFilter) (below : List String) :
    keepsFile root filter below = true ↔ IsEligible filter root below := by
  rw [keepsFile, FileFilter.admits, FileFilter.wantsExtension, Bool.and_eq_true,
    Bool.not_eq_true', List.contains_iff_mem]
  exact ⟨fun ⟨hadmitted, hwanted⟩ => ⟨hadmitted, hwanted⟩, fun h => ⟨h.admitted, h.wanted⟩⟩

/-! ### Each file once -/

lemma nodup_filesBelow {node : Node} (hnode : Proper node) (opens : List String → Bool)
    (here : List String) : (Node.filesBelow opens here node).Nodup := by
  induction hnode generalizing here with
  | file content => exact List.nodup_singleton here
  | link target => exact List.nodup_nil
  | dir entries _ hnodup hbelow ih =>
    rw [Node.filesBelow]
    split_ifs
    · rw [filesAmong_eq_flatMap, List.nodup_flatMap]
      refine ⟨fun entry hentry => ih entry hentry _, ?_⟩
      -- what lies below two entries is told apart by the names of the entries
      refine ((List.pairwise_map.mp hnodup).imp_of_mem ?_)
      intro entry other hentry hother hne file hfile hfile'
      obtain ⟨rest, rfl, _⟩ := (mem_filesBelow_iff (hbelow entry hentry) _ _ _).mp hfile
      obtain ⟨rest', hsame, _⟩ := (mem_filesBelow_iff (hbelow other hother) _ _ _).mp hfile'
      apply hne
      rw [List.append_assoc, List.append_assoc] at hsame
      exact (List.cons.inj (List.append_cancel_left hsame)).1
    · exact List.nodup_nil

lemma nodup_filesIn {disk : Disk} (htree : Proper disk.tree) (pruned : List String) (root : Path) :
    (filesIn disk pruned root).Nodup := by
  unfold filesIn
  split
  · next entries hdir =>
    obtain ⟨place, hplace⟩ := nodeAt_get? disk .target root _ hdir
    exact nodup_filesBelow (proper_get? _ _ _ htree hplace).1 _ _
  · exact List.nodup_nil

/-! ### The directories on the way -/

lemma size_render_descend (root : Path) (above more : List String) (hroot : root.anchor ≠ .relative) :
    (root.descend above).render.utf8ByteSize ≤ (root.descend (above ++ more)).render.utf8ByteSize := by
  have hle := size_render_append root.anchor (root.parts ++ above) more (Or.inl hroot)
  rwa [List.append_assoc] at hle

lemma exists_of_mem_dropLast {name : String} {names : List String} (h : name ∈ names.dropLast) :
    ∃ above next rest, names = above ++ name :: next :: rest := by
  have hne : names ≠ [] := by
    rintro rfl
    cases h
  obtain ⟨above, more, hsplit⟩ := List.append_of_mem h
  have hnames := List.dropLast_append_getLast hne
  rw [hsplit, List.append_assoc, List.cons_append] at hnames
  cases more with
  | nil => exact ⟨above, _, [], hnames.symm⟩
  | cons next more => exact ⟨above, next, _, hnames.symm⟩

/-- Every directory on the way down is entered if none has a pruned name and the last one, whose
path is the longest, can be listed. -/
lemma entersDir_prefixes_iff (root : Path) (pruned below : List String)
    (hroot : root.anchor ≠ .relative) (hbelow : below ≠ []) :
    (∀ dir, dir <+: below → dir ≠ below → entersDir root pruned dir = true) ↔
      (∀ name ∈ below.dropLast, name ∉ pruned) ∧
        (root.descend below.dropLast).render.utf8ByteSize ≤ maxPathBytes := by
  constructor
  · intro h
    refine ⟨fun name hname => ?_, ?_⟩
    · obtain ⟨above, next, rest, rfl⟩ := exists_of_mem_dropLast hname
      have henters := h (above ++ [name]) ⟨next :: rest, by simp⟩ (by simp)
      rw [entersDir_append, Bool.and_eq_true, Bool.not_eq_true'] at henters
      simpa using henters.2
    · have hdir := h below.dropLast (List.dropLast_prefix below) fun hsame => by
        have hlength := congrArg List.length hsame
        have hpos := List.length_pos_iff.mpr hbelow
        rw [List.length_dropLast] at hlength
        omega
      rw [entersDir, Bool.and_eq_true] at hdir
      exact of_decide_eq_true hdir.1
  · rintro ⟨hnames, hsize⟩ dir hdir hne
    rw [← List.dropLast_append_getLast hbelow] at hdir hne
    obtain ⟨more, hmore⟩ := (List.prefix_concat_iff.mp hdir).resolve_left hne
    have hlistable : isListable root dir = true := by
      have hle := size_render_descend root dir more hroot
      rw [hmore] at hle
      exact decide_eq_true (Nat.le_trans hle hsize)
    rw [entersDir, hlistable, Bool.true_and, Option.all_eq_true]
    intro name hname
    have hmem : name ∈ below.dropLast := by
      rw [← hmore]
      exact List.mem_append_left more (List.mem_of_getLast? hname)
    simpa using hnames name hmem

lemma mem_filesIn_iff_isCandidate {disk : Disk} (htree : Proper disk.tree) (pruned : List String)
    (root : Path) (below : List String) (hroot : root.anchor ≠ .relative) :
    below ∈ filesIn disk pruned root ↔ IsCandidate disk pruned root below := by
  have hne (hfile : ∃ entries content, disk.nodeAt .target root = .ok (.dir entries) ∧
      (Node.dir entries).get? below = some (.file content)) : below ≠ [] := by
    rintro rfl
    obtain ⟨_, _, _, hget⟩ := hfile
    cases hget
  rw [mem_filesIn_iff htree]
  constructor
  · rintro ⟨hfile, hdirs⟩
    obtain ⟨hentered, hlisted⟩ := (entersDir_prefixes_iff _ _ _ hroot (hne hfile)).mp hdirs
    exact ⟨hfile, hentered, hlisted⟩
  · rintro ⟨hfile, hentered, hlisted⟩
    exact ⟨hfile, (entersDir_prefixes_iff _ _ _ hroot (hne hfile)).mpr ⟨hentered, hlisted⟩⟩

/-! ### The order of the paths -/

lemma sortPaths_pairwise_le (paths : List Path) :
    ((sortPaths paths).map Path.render).Pairwise (· ≤ ·) := by
  rw [List.pairwise_map]
  refine (List.pairwise_mergeSort ?_ ?_ paths).imp fun h => of_decide_eq_true h
  · intro a b c hab hbc
    exact decide_eq_true (String.le_trans (of_decide_eq_true hab) (of_decide_eq_true hbc))
  · intro a b
    simpa using String.le_total a.render b.render

lemma sortPaths_pairwise_lt (paths : List Path) (hpaths : ∀ p ∈ paths, Spelled p)
    (hnodup : paths.Nodup) : ((sortPaths paths).map Path.render).Pairwise (· < ·) := by
  have htexts : ((sortPaths paths).map Path.render).Nodup := by
    refine List.Nodup.map_on ?_ ((List.mergeSort_perm paths _).nodup_iff.mpr hnodup)
    intro p hp q hq hsame
    calc p = Path.ofString p.render := (ofString_render p (hpaths p (List.mem_mergeSort.mp hp))).symm
      _ = Path.ofString q.render := by rw [hsame]
      _ = q := ofString_render q (hpaths q (List.mem_mergeSort.mp hq))
  refine (sortPaths_pairwise_le paths).imp₂ (fun p q hle hne => ?_) htexts
  apply String.not_le.mp
  intro hge
  exact hne (String.le_antisymm hle hge)

/-! ### What is found -/

lemma tally_candidates (cwd root : Path) (filter : FileFilter) (files : List (List String)) :
    let found := tally cwd root filter files
    found.candidates = found.paths.length + found.excludedByGlob + found.excludedByExtension := by
  simp only [tally, List.length_map, ← List.countP_eq_length_filter]
  induction files with
  | nil => rfl
  | cons file files ih =>
    simp only [List.length_cons, List.countP_cons, keepsFile, ih]
    by_cases hadmits : filter.admits file = true <;>
      by_cases hwants : filter.wantsExtension (root.descend file) = true <;>
      simp [hadmits, hwants] <;> omega

lemma isCanonical_resolve {disk : Disk} {p root : Path} (hcwd : IsRealDir disk disk.cwd)
    (h : disk.resolve p = .ok root) : IsCanonical root := by
  obtain ⟨resolved, _, rfl⟩ := resolve_eq_ok p root h
  have hanchor : disk.cwd.anchor ≠ .relative := by simp [hcwd.anchored]
  cases resolved <;> exact isCanonical_canonical disk.cwd _ hanchor

lemma spelled_resolved {disk : Disk} {p root : Path} (hcwd : IsRealDir disk disk.cwd)
    (hp : Spelled p) (h : disk.resolve p = .ok root) : Spelled root :=
  spelled_resolve disk p root (fun part hpart => (hcwd.plain part hpart).1) hp h

section Found

variable {disk : Disk} {root : Path} (htree : Proper disk.tree)

include htree in
lemma plain_of_isCandidate {pruned below : List String} (h : IsCandidate disk pruned root below) :
    ∀ name ∈ below, IsPlain name := by
  obtain ⟨entries, _, hdir, hget⟩ := h.isFile
  obtain ⟨place, hplace⟩ := nodeAt_get? disk .target root _ hdir
  exact (proper_get? _ _ _ (proper_get? _ _ _ htree hplace).1 hget).2

variable (hcanonical : IsCanonical root) (hspelled : Spelled root)

include htree hcanonical

/-- Below a canonical root the path to a candidate is its own canonical form. -/
lemma canonical_descend {pruned below : List String} (h : IsCandidate disk pruned root below) :
    Path.canonical disk.cwd (root.descend below) = root.descend below := by
  refine canonical_of_isCanonical disk.cwd _ ⟨hcanonical.anchored, ?_⟩
  refine List.forall_mem_append.mpr ⟨hcanonical.climbed, ?_⟩
  exact fun name hname => (plain_of_isCandidate htree h name hname).2

include hspelled

/-- What a search finds, and what it has counted, by its candidates. -/
lemma exists_candidates (filter : FileFilter) (pruned : List String) :
    ∃ candidates : List (List String), candidates.Nodup ∧
      (∀ below, below ∈ candidates ↔ IsCandidate disk pruned root below) ∧
      ((searchBelow disk filter pruned root).paths.map Path.render).Pairwise (· < ·) ∧
      (∀ p, p ∈ (searchBelow disk filter pruned root).paths ↔
        ∃ below, IsCandidate disk pruned root below ∧ IsEligible filter root below ∧
          p = Path.canonical disk.cwd (root.descend below)) ∧
      (searchBelow disk filter pruned root).candidates = candidates.length ∧
      (searchBelow disk filter pruned root).excludedByGlob = candidates.countP fun below =>
        isExcluded filter.excludeGlobs (Path.render ⟨.relative, below⟩) := by
  obtain ⟨files, hperm, hfound⟩ := searchBelow_eq_tally disk filter pruned root
  have hnodup : files.Nodup := hperm.nodup_iff.mpr (nodup_filesIn htree pruned root)
  have hmem : ∀ below, below ∈ files ↔ IsCandidate disk pruned root below := by
    intro below
    rw [hperm.mem_iff, mem_filesIn_iff_isCandidate htree _ _ _ hcanonical.anchored]
  have hpaths : (tally disk.cwd root filter files).paths =
      (files.filter (keepsFile root filter)).map root.descend := by
    refine List.map_congr_left fun below hbelow => ?_
    exact canonical_descend htree hcanonical ((hmem below).mp (List.mem_filter.mp hbelow).1)
  rw [hfound]
  refine ⟨files, hnodup, hmem, sortPaths_pairwise_lt _ ?_ ?_, ?_, rfl, ?_⟩
  · rw [hpaths]
    intro p hp
    obtain ⟨below, hbelow, rfl⟩ := List.mem_map.mp hp
    have hplain := plain_of_isCandidate htree ((hmem below).mp (List.mem_filter.mp hbelow).1)
    exact List.forall_mem_append.mpr ⟨hspelled, fun name hname => (hplain name hname).1⟩
  · rw [hpaths]
    refine (hnodup.filter _).map fun below other hsame => ?_
    exact List.append_cancel_left (congrArg Path.parts hsame)
  · intro p
    rw [sortPaths, List.mem_mergeSort, tally, List.mem_map]
    simp only [List.mem_filter, hmem, keepsFile_iff, and_assoc, @eq_comm _ p]
  · simp [tally, FileFilter.admits]

end Found

/-- Each candidate is found, or left out for one of the two reasons. -/
lemma candidates_searchBelow (disk : Disk) (filter : FileFilter) (pruned : List String)
    (root : Path) : let found := searchBelow disk filter pruned root
      found.candidates =
        found.paths.length + found.excludedByGlob + found.excludedByExtension := by
  obtain ⟨files, _, hfound⟩ := searchBelow_eq_tally disk filter pruned root
  dsimp only
  rw [hfound, sortPaths, List.length_mergeSort]
  exact tally_candidates disk.cwd root filter files

/-- What a search finds are the eligible ones among its candidates, each once and in the order of
their texts, and the numbers of what it leaves out complete the number of its candidates. Where its
root does not resolve, the search fails alike. -/
theorem discover_finds_eligible (disk : Disk) (filter : FileFilter) (projectRoot : Path)
    (hcwd : IsRealDir disk disk.cwd) (hroot : Spelled projectRoot) (htree : Proper disk.tree) :
    (∀ fault, disk.resolve projectRoot = .error fault →
      discover disk filter projectRoot = .error fault) ∧
    ∀ root, disk.resolve projectRoot = .ok root → ∃ found, ∃ candidates : List (List String),
      discover disk filter projectRoot = .ok found ∧
      candidates.Nodup ∧
      (∀ below, below ∈ candidates ↔
        IsCandidate disk (prunedNames filter.excludeGlobs) root below) ∧
      (found.paths.map Path.render).Pairwise (· < ·) ∧
      (∀ p, p ∈ found.paths ↔ ∃ below,
        IsCandidate disk (prunedNames filter.excludeGlobs) root below ∧
          IsEligible filter root below ∧ p = Path.canonical disk.cwd (root.descend below)) ∧
      found.candidates = candidates.length ∧
      found.excludedByGlob = candidates.countP (fun below =>
        isExcluded filter.excludeGlobs (Path.render ⟨.relative, below⟩)) ∧
      found.candidates =
        found.paths.length + found.excludedByGlob + found.excludedByExtension := by
  refine ⟨fun fault hresolve => by rw [discover, hresolve], fun root hresolve => ?_⟩
  obtain ⟨candidates, hnodup, hmem, hsorted, hpaths, hcount, hglob⟩ := exists_candidates htree
    (isCanonical_resolve hcwd hresolve) (spelled_resolved hcwd hroot hresolve) filter
    (prunedNames filter.excludeGlobs)
  have hsum := candidates_searchBelow disk filter (prunedNames filter.excludeGlobs) root
  refine ⟨_, candidates, ?_, hnodup, hmem, hsorted, hpaths, hcount, hglob, hsum⟩
  exact (discover_eq_ok_iff _ _ _ _).mpr ⟨root, hresolve, rfl⟩

/-- A project with a link that leads back above it and a directory of drafts. -/
def circularEntries : Entries :=
  [("main.ink", .file ⟨#[]⟩),
    ("up", .link ".."),
    ("drafts", .dir [("old.ink", .file ⟨#[]⟩)]),
    ("part", .dir [("END.INK", .file ⟨#[]⟩)])]

def circularProject : Disk where
  tree := .dir [("home", .link "work/proj"), ("work", .dir [("proj", .dir circularEntries)])]
  cwd := ⟨.root, []⟩
  linkRoom := 900

lemma proper_circularProject : Proper circularProject.tree := by
  have hdrafts : Proper (.dir [("old.ink", .file ⟨#[]⟩)]) := .dir _ (by decide) (by simp) (by simp)
  have hpart : Proper (.dir [("END.INK", .file ⟨#[]⟩)]) := .dir _ (by decide) (by simp) (by simp)
  refine .dir _ (by decide) (by simp) ?_
  simp only [List.forall_mem_cons]
  refine ⟨.link _, .dir _ (by decide) (by simp) ?_, by simp⟩
  rw [List.forall_mem_singleton]
  refine .dir _ (by decide) (by decide) ?_
  simp [circularEntries, hdrafts, hpart]

lemma isRealDir_circularProject : IsRealDir circularProject circularProject.cwd :=
  ⟨rfl, by simp [circularProject], _, rfl⟩

lemma spelled_home : Spelled ⟨.root, ["home"]⟩ := by
  simpa [Spelled] using ⟨by decide, by decide⟩

lemma resolve_home :
    circularProject.resolve ⟨.root, ["home"]⟩ = .ok ⟨.root, ["work", "proj"]⟩ := by
  decide +kernel

theorem discover_finds_eligible_circular :
    let filter : FileFilter := ⟨[".ink"], ["**/drafts/**"]⟩
    let root : Path := ⟨.root, ["work", "proj"]⟩
    IsRealDir circularProject circularProject.cwd ∧ Spelled ⟨.root, ["home"]⟩ ∧
      Proper circularProject.tree ∧ circularProject.resolve ⟨.root, ["home"]⟩ = .ok root ∧
      ∃ found, discover circularProject filter ⟨.root, ["home"]⟩ = .ok found ∧
        (found.paths.map Path.render).Pairwise (· < ·) ∧
        root.descend ["main.ink"] ∈ found.paths ∧ root.descend ["part", "END.INK"] ∈ found.paths ∧
        found.candidates =
          found.paths.length + found.excludedByGlob + found.excludedByExtension := by
  intro filter root
  obtain ⟨_, hfinds⟩ := discover_finds_eligible circularProject filter ⟨.root, ["home"]⟩
    isRealDir_circularProject spelled_home proper_circularProject
  obtain ⟨found, _, hfound, _, _, hsorted, hmem, _, _, hsum⟩ := hfinds root resolve_home
  have hdir : circularProject.nodeAt .target root = .ok (.dir circularEntries) := by
    apply (nodeAt_eq_ok_iff _ _ _ _).mpr
    refine ⟨["work", "proj"], (locate_eq_ok_iff _ _ _ _).mpr ⟨?_, rfl⟩⟩
    exact ⟨by decide +kernel, by decide +kernel⟩
  refine ⟨isRealDir_circularProject, spelled_home, proper_circularProject, resolve_home, found,
    hfound, hsorted, ?_, ?_, hsum⟩
  · apply (hmem _).mpr
    refine ⟨["main.ink"], ⟨⟨_, _, hdir, rfl⟩, by decide, by decide +kernel⟩, ?_, by decide⟩
    exact ⟨by decide +kernel, by decide +kernel⟩
  · apply (hmem _).mpr
    refine ⟨["part", "END.INK"], ⟨⟨_, _, hdir, rfl⟩, by decide +kernel, by decide +kernel⟩, ?_,
      by decide⟩
    exact ⟨by decide +kernel, by decide +kernel⟩

/-- Directories one in the other, each with a name of a hundred characters. -/
def nestedStory : Nat → Node
  | 0 => .dir [("deep.ink", .file ⟨#[]⟩)]
  | depth + 1 => .dir [(String.ofList (List.replicate 100 'd'), nestedStory depth)]

/-- A disk with a file whose path is too long for a call, and a link that leads to itself. -/
def deepDisk : Disk where
  tree := .dir [("loop", .link "loop"), ("proj", nestedStory 41)]
  cwd := ⟨.root, []⟩
  linkRoom := 900

/-- A search passes over a file behind a path that is too long, and fails on a link that leads to
itself. -/
theorem discover_misses_deep_file :
    let filter : FileFilter := ⟨[".ink"], []⟩
    let root : Path := ⟨.root, ["proj"]⟩
    let below := List.replicate 41 (String.ofList (List.replicate 100 'd')) ++ ["deep.ink"]
    deepDisk.resolve root = .ok root ∧
      deepDisk.tree.get? (root.parts ++ below) = some (.file ⟨#[]⟩) ∧
      prunedNames filter.excludeGlobs = [] ∧ IsEligible filter root below ∧
      discover deepDisk filter root = .ok ⟨[], 0, 0, 0⟩ ∧
      discover deepDisk filter ⟨.root, ["loop"]⟩ = .error .linkLoop := by
  intro filter root below
  refine ⟨by decide +kernel, rfl, rfl, ⟨by decide +kernel, by decide +kernel⟩, ?_, ?_⟩
  · decide +kernel
  · decide +kernel

end StoryAtlas.Proofs
