import StoryAtlas.Proofs.FileSearch
import StoryAtlas.Proofs.LinkResolution

/-!
# Names on disk

A disk is well named if the names in its tree and in its current directory can be spelled. On such a
disk every path that resolving a link or searching a project gives is spelled again, whatever the
targets of its links are.
-/

namespace StoryAtlas.Proofs
open StoryAtlas.Disk

mutual

/-- The names below a node can be spelled. -/
def NamedBelow : Node → Prop
  | .file _ => True
  | .link _ => True
  | .dir entries => NamedAmong entries

/-- The names among the entries of a directory, and below them, can be spelled. -/
def NamedAmong : List (String × Node) → Prop
  | [] => True
  | (name, node) :: rest => IsName name ∧ NamedBelow node ∧ NamedAmong rest

end

/-- The names that a disk can show can be spelled. -/
structure WellNamed (disk : Disk) : Prop where
  tree : NamedBelow disk.tree
  cwd : Spelled disk.cwd

/-! ### Resolving -/

lemma spelled_up (p : Path) (hp : Spelled p) : Spelled (up p) := by
  unfold up
  split_ifs
  · exact spelled_child p ".." hp ⟨by decide, by decide⟩
  · exact spelled_parent p hp

lemma spelled_followedBy (p : Path) (rest : List String) (hp : Spelled p) :
    Spelled (followedBy p rest) :=
  spelled_under p _ hp (spelled_ofString _)

lemma spelled_kept (disk : Disk) : KeptByResolving disk Spelled Spelled where
  root := by simp [Spelled]
  climb := spelled_up
  child p name hp hname _ _ := spelled_child p name hp hname
  circle p name rest hp hname := spelled_followedBy _ rest (spelled_child p name hp hname)
  rest := spelled_followedBy

/-- Resolving a spelled path gives a spelled path. -/
theorem spelled_resolve (disk : Disk) (p root : Path) (hcwd : Spelled disk.cwd) (hp : Spelled p)
    (h : disk.resolve p = .ok root) : Spelled root := by
  obtain ⟨found, hfound, rfl⟩ := resolve_eq_ok p root h
  have hspelled : ResolutionHolds Spelled Spelled found :=
    resolution_holds (spelled_kept disk) (by simp [Spelled]) p found hp hfound
  cases found with
  | full path seen => exact spelled_canonical disk.cwd path hcwd hspelled.1
  | circle path => exact spelled_canonical disk.cwd path hcwd hspelled

/-! ### Searching -/

lemma namedBelow_of_mem (name : String) (node : Node) (entries : List (String × Node))
    (hentries : NamedAmong entries) (h : (name, node) ∈ entries) : NamedBelow node := by
  induction entries with
  | nil => cases h
  | cons entry rest ih =>
    obtain ⟨name', node'⟩ := entry
    obtain ⟨_, hnode, hrest⟩ := hentries
    rcases List.mem_cons.mp h with heq | hmem
    · obtain ⟨_, rfl⟩ : name = name' ∧ node = node' := by simpa using heq
      exact hnode
    · exact ih hrest hmem

lemma namedBelow_get? (tree node : Node) (place : List String) (htree : NamedBelow tree)
    (h : tree.get? place = some node) : NamedBelow node := by
  induction place generalizing tree with
  | nil =>
    obtain rfl : tree = node := by simpa [Node.get?] using h
    exact htree
  | cons name rest ih =>
    cases tree with
    | file content => cases h
    | link target => cases h
    | dir entries =>
      simp only [Node.get?, Node.child?] at h
      split at h
      · cases h
      · next child hchild =>
        exact ih child (namedBelow_of_mem name child entries htree
          (mem_of_lookup_eq_some _ _ _ hchild)) h

lemma get?_append (tree : Node) (place more : List String) :
    tree.get? (place ++ more) = (tree.get? place).bind fun node => node.get? more := by
  induction place generalizing tree with
  | nil => rfl
  | cons name place ih => cases hchild : tree.child? name <;> simp [Node.get?, hchild, ih]

lemma get?_append_singleton (tree : Node) (place : List String) (name : String) :
    tree.get? (place ++ [name]) = (tree.get? place).bind fun node => node.child? name := by
  rw [get?_append]
  congr
  funext node
  cases hchild : node.child? name <;> simp [Node.get?, hchild]

/-- What a walk finds stands in the tree at the place where it ends. -/
lemma walkWith_get? (tree : Node) (wanted : Wanted)
    (expand : List String → List String → Except OsError Spot)
    (hexpand : ∀ here names place node, expand here names = .ok ⟨place, some node⟩ →
      tree.get? place = some node)
    (here names place : List String) (node : Node)
    (h : walkWith tree wanted expand here names = .ok ⟨place, some node⟩) :
    tree.get? place = some node := by
  induction names generalizing here with
  | nil =>
    unfold walkWith at h
    split at h
    · next found hfound =>
      obtain ⟨rfl, rfl⟩ : here = place ∧ found = node := by simpa using h
      exact hfound
    · cases h
  | cons name rest ih =>
    unfold walkWith at h
    split at h
    · next entries hhere =>
      have hchild : tree.get? (here ++ [name]) = entries.lookup name := by
        rw [get?_append_singleton, hhere]
        rfl
      split at h
      · exact ih here h
      split at h
      · exact ih here.dropLast h
      split at h
      · cases h
      split at h
      · cases h
      split at h
      · split at h <;> simp at h
      · next target hlookup =>
        split at h
        · obtain ⟨rfl, rfl⟩ : here ++ [name] = place ∧ .link target = node := by simpa using h
          exact hchild.trans hlookup
        · exact hexpand _ _ place node h
      · exact ih (here ++ [name]) h
    · cases h
    · cases h

lemma walk_get? (tree : Node) (wanted : Wanted) (links : Nat) (here names place : List String)
    (node : Node) (h : walk tree wanted links here names = .ok ⟨place, some node⟩) :
    tree.get? place = some node := by
  induction links generalizing here names place node with
  | zero => cases h
  | succ links ih => exact walkWith_get? tree wanted _ ih here names place node h

/-- The text of the path can be looked up: it has no NUL character and is not too long. -/
def Askable (p : Path) : Prop :=
  Char.ofNat 0 ∉ p.render.toList ∧ p.render.utf8ByteSize ≤ maxPathBytes

/-- The place where the walk along a path begins. -/
def startOf (disk : Disk) (p : Path) : List String :=
  if p.anchor = .relative then disk.cwd.parts else []

lemma locate_eq_ok_iff (disk : Disk) (wanted : Wanted) (p : Path) (spot : Spot) :
    disk.locate wanted p = .ok spot ↔
      Askable p ∧ walk disk.tree wanted (maxLinks + 1) (startOf disk p) p.parts = .ok spot := by
  unfold Disk.locate Askable startOf
  dsimp only
  split
  · next hnul => simp_all
  split
  · next hlong => simp [Nat.not_le.mpr hlong]
  next hnul hlong =>
  have hshort : p.render.utf8ByteSize ≤ maxPathBytes := Nat.not_lt.mp hlong
  split
  · next found hwalk => simp_all
  · next e hwalk => simp_all

lemma nodeAt_eq_ok_iff (disk : Disk) (wanted : Wanted) (p : Path) (node : Node) :
    disk.nodeAt wanted p = .ok node ↔ ∃ place, disk.locate wanted p = .ok ⟨place, some node⟩ := by
  unfold Disk.nodeAt
  split
  · next e hlocate => simp [hlocate]
  · next place found hlocate => simp [hlocate]
  · next place hlocate => simp [hlocate]

lemma walk_of_nodeAt (disk : Disk) (wanted : Wanted) (p : Path) (node : Node)
    (h : disk.nodeAt wanted p = .ok node) :
    ∃ place, walk disk.tree wanted (maxLinks + 1) (startOf disk p) p.parts =
      .ok ⟨place, some node⟩ := by
  obtain ⟨place, hlocate⟩ := (nodeAt_eq_ok_iff disk wanted p node).mp h
  exact ⟨place, ((locate_eq_ok_iff disk wanted p _).mp hlocate).2⟩

lemma nodeAt_get? (disk : Disk) (wanted : Wanted) (p : Path) (node : Node)
    (h : disk.nodeAt wanted p = .ok node) : ∃ place, disk.tree.get? place = some node := by
  obtain ⟨place, hwalk⟩ := walk_of_nodeAt disk wanted p node h
  exact ⟨place, walk_get? disk.tree wanted _ _ _ place node hwalk⟩

mutual

lemma filesBelow_named (opens : List String → Bool) (here : List String) (node : Node)
    (hhere : ∀ name ∈ here, IsName name) (hnode : NamedBelow node) :
    ∀ file ∈ Node.filesBelow opens here node, ∀ name ∈ file, IsName name := by
  intro file hfile
  cases node with
  | file content =>
    obtain rfl : file = here := by simpa [Node.filesBelow] using hfile
    exact hhere
  | link target => simp [Node.filesBelow] at hfile
  | dir entries =>
    rw [Node.filesBelow] at hfile
    split_ifs at hfile
    · exact filesAmong_named opens here entries hhere hnode file hfile
    · cases hfile

lemma filesAmong_named (opens : List String → Bool) (here : List String)
    (entries : List (String × Node)) (hhere : ∀ name ∈ here, IsName name)
    (hentries : NamedAmong entries) :
    ∀ file ∈ Node.filesAmong opens here entries, ∀ name ∈ file, IsName name := by
  intro file hfile
  match entries, hentries with
  | [], _ => simp [Node.filesAmong] at hfile
  | (name, node) :: rest, ⟨hname, hnode, hrest⟩ =>
    have hnext : ∀ part ∈ here ++ [name], IsName part :=
      List.forall_mem_append.mpr ⟨hhere, by simpa using hname⟩
    rw [Node.filesAmong] at hfile
    rcases List.mem_append.mp hfile with hmem | hmem
    · exact filesBelow_named opens (here ++ [name]) node hnext hnode file hmem
    · exact filesAmong_named opens here rest hhere hrest file hmem

end

/-- A search of a well-named disk finds spelled paths. -/
theorem spelled_discover (disk : Disk) (filter : FileFilter) (projectRoot : Path)
    (found : Discovery) (hdisk : WellNamed disk) (hroot : Spelled projectRoot)
    (h : discover disk filter projectRoot = .ok found) : ∀ p ∈ found.paths, Spelled p := by
  intro p hp
  obtain ⟨root, hresolve, below, hbelow, _, rfl⟩ := exists_of_mem_discover h hp
  have hspelled : Spelled root := spelled_resolve disk projectRoot root hdisk.cwd hroot hresolve
  apply spelled_canonical disk.cwd _ hdisk.cwd
  unfold filesIn at hbelow
  split at hbelow
  · next entries hnode =>
    obtain ⟨place, hplace⟩ := nodeAt_get? disk .target root (.dir entries) hnode
    have hentries : NamedBelow (.dir entries) :=
      namedBelow_get? disk.tree (.dir entries) place hdisk.tree hplace
    have hnames := filesBelow_named _ [] (.dir entries) (by simp) hentries _ hbelow
    exact List.forall_mem_append.mpr ⟨hspelled, hnames⟩
  · cases hbelow

end StoryAtlas.Proofs
