import StoryAtlas.Proofs.ShownPaths

/-!
# Resolving on a disk without circles

On a disk as a system has it, no name and no target of a link has a NUL character, and the current
directory is a real one. If no links run in a circle either, then every absolute path without a NUL
character resolves, unless it runs over links that lie too deep within each other. A relative path
resolves too, unless it leads to a relative path that is too long to be looked up: the links on that
one stay, and there may be more than a lookup replaces.
-/

namespace StoryAtlas.Proofs
open StoryAtlas.Disk

/-! ### Names without NUL -/

/-- No name in the list has a NUL character. -/
def NulFree (names : List String) : Prop :=
  ∀ name ∈ names, Char.ofNat 0 ∉ name.toList

lemma hasNul_eq_false_iff (p : Path) : hasNul p = false ↔ NulFree p.parts := by
  have hrender := nul_mem_render p
  constructor
  · intro h part hpart hmem
    have hnot : Char.ofNat 0 ∉ p.render.toList := by simpa [hasNul] using h
    exact hnot (hrender.mpr ⟨part, hpart, hmem⟩)
  · intro h
    have hnot : Char.ofNat 0 ∉ p.render.toList := by
      intro hmem
      obtain ⟨part, hpart, hnul⟩ := hrender.mp hmem
      exact h part hpart hnul
    simpa [hasNul] using hnot

lemma nulFree_of_subset {names more : List String} (h : NulFree more) (hsub : names ⊆ more) :
    NulFree names :=
  fun name hname => h name (hsub hname)

lemma nulFree_append {names more : List String} (h : NulFree names) (hmore : NulFree more) :
    NulFree (names ++ more) :=
  List.forall_mem_append.mpr ⟨h, hmore⟩

lemma nulFree_up (p : Path) (h : NulFree p.parts) : NulFree (up p).parts := by
  unfold up
  split_ifs
  · exact nulFree_append h (by simp [NulFree])
  · exact nulFree_of_subset h (List.dropLast_subset _)

lemma nulFree_under (base p : Path) (hbase : NulFree base.parts) (hp : NulFree p.parts) :
    NulFree (base.under p).parts := by
  unfold Path.under
  split_ifs
  · exact nulFree_append hbase hp
  · exact hp

lemma nulFree_canonical (base p : Path) (hbase : NulFree base.parts) (hp : NulFree p.parts) :
    NulFree (Path.canonical base p).parts :=
  nulFree_of_subset (nulFree_under base p hbase hp) fun _ hpart => (mem_climb hpart).1

lemma mem_of_mem_split (sep c : Char) (cs piece : List Char) (hpiece : piece ∈ Text.split sep cs)
    (hc : c ∈ piece) : c ∈ cs := by
  induction cs generalizing piece with
  | nil =>
    obtain rfl : piece = [] := by simpa using hpiece
    cases hc
  | cons d ds ih =>
    obtain ⟨first, rest, hsplit⟩ := List.exists_cons_of_ne_nil (Text.split_ne_nil sep ds)
    rw [Text.split_cons, hsplit] at hpiece
    rw [hsplit] at ih
    split_ifs at hpiece
    · rcases List.mem_cons.mp hpiece with rfl | hmem
      · cases hc
      · exact List.mem_cons_of_mem _ (ih piece hmem hc)
    · rcases List.mem_cons.mp hpiece with rfl | hmem
      · rcases List.mem_cons.mp hc with rfl | hc
        · exact List.mem_cons_self
        · exact List.mem_cons_of_mem _ (ih first List.mem_cons_self hc)
      · exact List.mem_cons_of_mem _ (ih piece (List.mem_cons_of_mem _ hmem) hc)

lemma nulFree_splitText (s : String) (h : Char.ofNat 0 ∉ s.toList) :
    NulFree (Text.splitText '/' s) := by
  intro name hname hnul
  obtain ⟨piece, hpiece, rfl⟩ := List.mem_map.mp hname
  rw [String.toList_ofList] at hnul
  exact h (mem_of_mem_split '/' _ _ piece hpiece hnul)

lemma nulFree_ofString (s : String) (h : Char.ofNat 0 ∉ s.toList) :
    NulFree (Path.ofString s).parts :=
  nulFree_of_subset (nulFree_splitText s h) (List.filter_subset_self _)

lemma nulFree_followedBy (p : Path) (rest : List String) (hp : NulFree p.parts)
    (hrest : NulFree rest) : NulFree (followedBy p rest).parts := by
  apply nulFree_under p _ hp
  apply nulFree_ofString
  rw [mem_intercalate _ _ (by decide)]
  rintro ⟨name, hname, hnul⟩
  exact hrest name hname hnul

/-! ### Disks -/

/-- Neither a name nor the target of a link in the tree has a NUL character. -/
inductive NulFreeTree : Node → Prop
  | file (content : ByteArray) : NulFreeTree (.file content)
  | link (target : String) (htarget : Char.ofNat 0 ∉ target.toList) : NulFreeTree (.link target)
  | dir (entries : List (String × Node)) (hnames : NulFree (entries.map Prod.fst))
      (hbelow : ∀ entry ∈ entries, NulFreeTree entry.2) : NulFreeTree (.dir entries)

lemma nulFreeTree_get? (tree node : Node) (place : List String) (htree : NulFreeTree tree)
    (h : tree.get? place = some node) : NulFreeTree node ∧ NulFree place := by
  induction place generalizing tree with
  | nil =>
    obtain rfl : tree = node := by simpa [Node.get?] using h
    exact ⟨htree, by simp [NulFree]⟩
  | cons name rest ih =>
    cases htree with
    | file content => cases h
    | link target htarget => cases h
    | dir entries hnames hbelow =>
      obtain ⟨_, child, htop, hchild, hget⟩ := get?_append_cons (.dir entries) node [] rest name h
      obtain rfl := Node.dir.inj (Option.some.inj htop)
      have hmem := mem_of_lookup_eq_some name child entries hchild
      obtain ⟨hnode, hrest⟩ := ih child (hbelow _ hmem) hget
      have hname := hnames name (List.mem_map_of_mem hmem)
      exact ⟨hnode, List.forall_mem_cons.mpr ⟨hname, hrest⟩⟩

/-- A disk as a system has it: names are proper, no text on it has a NUL character, and the current
directory is a real one. -/
structure Sound (disk : Disk) : Prop where
  tree : Proper disk.tree
  texts : NulFreeTree disk.tree
  cwd : IsRealDir disk disk.cwd

/-- No path of the disk runs in a circle of links: resolving a path never comes back to a link that
is still being resolved. -/
def LoopFree (disk : Disk) : Prop :=
  ∀ p path, resolution disk p ≠ .ok (.circle path)

/-- The way of the path runs over links that lie deeper within each other than the stack has room
for. -/
def LinksTooDeep (disk : Disk) (p : Path) : Prop :=
  resolution disk p = .error .linksTooDeep

/-- What resolving comes to without NUL characters: paths without them, or links that are too deep.
-/
def NulFreeOutcome : Except Fault Resolution → Prop
  | .ok found => ResolutionHolds (NulFree ·.parts) (NulFree ·.parts) found
  | .error fault => fault = .linksTooDeep

section Resolving

variable {disk : Disk} (hdisk : Sound disk)

include hdisk

lemma nulFree_target {p : Path} {target : String}
    (h : disk.nodeAt .entry p = .ok (.link target)) : NulFree (targetParts target) := by
  obtain ⟨place, hget⟩ := nodeAt_get? disk .entry p _ h
  cases (nulFreeTree_get? _ _ place hdisk.texts hget).1 with
  | link _ htarget => exact nulFree_splitText target htarget

lemma nulFree_cwd : NulFree disk.cwd.parts := by
  obtain ⟨entries, hdir⟩ := hdisk.cwd.isDir
  exact (nulFreeTree_get? _ _ _ hdisk.texts hdir).2

lemma resolveWith_nulFree (expand : Seen → Path → List String → Except Fault Resolution)
    (hexpand : ∀ seen here names, SeenHolds (NulFree ·.parts) seen → NulFree here.parts →
      NulFree names → NulFreeOutcome (expand seen here names))
    (seen : Seen) (here : Path) (names : List String) (hseen : SeenHolds (NulFree ·.parts) seen)
    (hhere : NulFree here.parts) (hnames : NulFree names) :
    NulFreeOutcome (resolveWith disk expand seen here names) := by
  induction names generalizing seen here with
  | nil => exact ⟨hhere, hseen⟩
  | cons name rest ih =>
    obtain ⟨hname, hrest⟩ := List.forall_mem_cons.mp hnames
    have hnext : NulFree (here.child name).parts :=
      nulFree_append hhere (by simpa [NulFree] using hname)
    unfold resolveWith
    split_ifs
    · exact ih seen here hseen hhere hrest
    · exact ih seen (up here) hseen (nulFree_up here hhere) hrest
    dsimp only
    split
    · next hbad =>
      exact absurd hbad (nodeAt_ne_nulInPath disk .entry _ ((hasNul_eq_false_iff _).mpr hnext))
    · next target hlink =>
      split
      · next known hknown =>
        exact ih seen known hseen (hseen _ known (mem_of_lookup_eq_some _ _ _ hknown)) hrest
      · exact nulFree_followedBy _ rest hnext hrest
      · have hopen := seenHolds_cons (here.child name) none seen (by simp) hseen
        have hstart : NulFree (Path.parts
            (if Anchor.ofChars target.toList = .relative then here else ⟨.root, []⟩)) := by
          split_ifs
          · exact hhere
          · simp [NulFree]
        have hinner := hexpand _ _ _ hopen hstart (nulFree_target hdisk hlink)
        split
        · next fault hfault =>
          rw [hfault] at hinner
          exact hinner
        · next path hpath =>
          rw [hpath] at hinner
          exact nulFree_followedBy path rest hinner hrest
        · next path met hpath =>
          rw [hpath] at hinner
          have hclosed := seenHolds_cons (here.child name) (some path) met
            (by simpa using hinner.1) hinner.2
          exact ih _ path hclosed hinner.1 hrest
    · exact ih seen (here.child name) hseen hnext hrest

lemma resolveWithin_nulFree (room : Nat) (seen : Seen) (here : Path) (names : List String)
    (hseen : SeenHolds (NulFree ·.parts) seen) (hhere : NulFree here.parts)
    (hnames : NulFree names) : NulFreeOutcome (resolveWithin disk room seen here names) := by
  induction room generalizing seen here names with
  | zero => rfl
  | succ room ih => exact resolveWith_nulFree hdisk _ ih seen here names hseen hhere hnames

/-- The path that a path without NUL characters leads to, where no links run in a circle and none
are too deep. -/
lemma resolution_full_or_tooDeep (hloops : LoopFree disk) (p : Path) (hp : NulFree p.parts) :
    (∃ path seen, resolution disk p = .ok (.full path seen) ∧ NulFree path.parts) ∨
      LinksTooDeep disk p := by
  have hstart : NulFree (Path.parts
      (if p.anchor = .relative then ⟨.relative, []⟩ else ⟨.root, []⟩)) := by
    split_ifs <;> simp [NulFree]
  have houtcome : NulFreeOutcome (resolution disk p) :=
    resolveWithin_nulFree hdisk (disk.linkRoom + 1) [] _ p.parts (by simp [SeenHolds]) hstart hp
  cases hfound : resolution disk p with
  | error fault =>
    rw [hfound] at houtcome
    obtain rfl : fault = .linksTooDeep := houtcome
    exact Or.inr hfound
  | ok found =>
    rw [hfound] at houtcome
    cases found with
    | full path seen => exact Or.inl ⟨path, seen, rfl, houtcome.1⟩
    | circle path => exact absurd hfound (hloops p path)

end Resolving

lemma anchored_kept (disk : Disk) : KeptByResolving disk (·.anchor = .root) (fun _ => True) where
  root := rfl
  climb p hp := by
    unfold up
    rw [if_neg (by simp [hp])]
    exact hp
  child _ _ hp _ _ _ := hp
  circle _ _ _ _ _ := trivial
  rest _ _ _ := trivial

/-- What is absolute at first stays absolute. -/
lemma anchor_of_resolution {disk : Disk} (p path : Path) (seen : Seen) (hp : Spelled p)
    (habsolute : p.anchor ≠ .relative) (h : resolution disk p = .ok (.full path seen)) :
    path.anchor = .root := by
  unfold resolution at h
  rw [if_neg habsolute] at h
  have hholds : ResolutionHolds (·.anchor = .root) (fun _ => True) (.full path seen) :=
    resolveWithin_holds (anchored_kept disk) _ [] ⟨.root, []⟩ p.parts _ (by simp [SeenHolds]) rfl
      (fun name hname => (hp name hname).2) h
  exact hholds.1

/-- The path leads to a relative path that is too long to be looked up, and which, seen from the
current directory, runs over more links than a lookup replaces. -/
def Overlong (disk : Disk) (p : Path) : Prop :=
  p.anchor = .relative ∧ ∃ found seen, resolution disk p = .ok (.full found seen) ∧
    found.anchor = .relative ∧ maxPathBytes < found.render.utf8ByteSize ∧
    disk.nodeAt .target (Path.canonical disk.cwd found) = .error (.os .tooManyLinks)

lemma resolve_of_overlong {disk : Disk} {p : Path} (h : Overlong disk p) :
    disk.resolve p = .error .linkLoop := by
  obtain ⟨_, found, seen, hfound, _, _, hlinks⟩ := h
  unfold resolution at hfound
  unfold Disk.resolve
  dsimp only
  rw [hfound]
  dsimp only [absoluteOf]
  rw [hlinks]

/-- On a disk without circles of links a path without NUL characters resolves, or it is overlong, or
it runs over links that are too deep. -/
theorem resolve_ok_or_fails {disk : Disk} (hdisk : Sound disk) (hloops : LoopFree disk)
    (p : Path) (hspelled : Spelled p) (hnul : NulFree p.parts) :
    (∃ q, disk.resolve p = .ok q) ∨ Overlong disk p ∨ LinksTooDeep disk p := by
  obtain ⟨found, seen, hfound, hfree⟩ | hdeep := resolution_full_or_tooDeep hdisk hloops p hnul
  swap
  · exact Or.inr (Or.inr hdeep)
  have htree := get?_take_dir disk.tree disk.cwd.parts 0 hdisk.cwd.isDir
  have hcanonical : hasNul (Path.canonical disk.cwd found) = false :=
    (hasNul_eq_false_iff _).mpr (nulFree_canonical _ found (nulFree_cwd hdisk) hfree)
  have htracked : ResolutionHolds (Tracked disk) (fun _ => True) (.full found seen) :=
    resolution_holds (tracked_kept hdisk.cwd) (tracked_climbing hdisk.cwd 0) p _ hspelled hfound
  by_cases hshort : found.anchor = .relative → found.render.utf8ByteSize ≤ maxPathBytes
  · have hstraight := straight_canonical hdisk.cwd found htracked.1 hshort
    exact Or.inl ⟨_, resolve_of_resolution p _ _ hfound rfl hstraight hcanonical htree⟩
  · obtain ⟨hrelative, hlong⟩ := Classical.not_imp.mp hshort
    have hp : p.anchor = .relative := by
      by_contra habsolute
      have hroot := anchor_of_resolution p found seen hspelled habsolute hfound
      rw [hroot] at hrelative
      cases hrelative
    by_cases hlinks :
        disk.nodeAt .target (Path.canonical disk.cwd found) = .error (.os .tooManyLinks)
    · exact Or.inr (Or.inl ⟨hp, found, seen, hfound, hrelative, Nat.not_le.mp hlong, hlinks⟩)
    · refine Or.inl ⟨Path.canonical disk.cwd found, ?_⟩
      unfold resolution at hfound
      unfold Disk.resolve
      dsimp only
      rw [hfound]
      dsimp only [absoluteOf]
      split
      · next hbad => exact absurd hbad hlinks
      · next hbad => exact absurd hbad (nodeAt_ne_nulInPath disk .target _ hcanonical)
      · rfl

end StoryAtlas.Proofs
