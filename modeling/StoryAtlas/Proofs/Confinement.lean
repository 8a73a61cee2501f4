import Mathlib.Data.List.Induction
import StoryAtlas.Proofs.PlainWalks
import StoryAtlas.Server.Confine

/-!
# Paths that stay within the project

A path that is let through lies below the project root as far as its text goes. If resolving it met
no circle of links and no path too long to be looked up, then no link is left on it either, and it
leads to the very place below the root that it spells. A circle of links breaks this: what follows
the circle is never resolved, and a `..` behind it takes the circle out of sight.
-/

namespace StoryAtlas.Proofs
open StoryAtlas.Disk

/-- No link stands at a path that the components of `p` begin with. -/
def LinkFree (disk : Disk) (p : Path) : Prop :=
  ∀ parts, parts <+: p.parts → ∀ target, disk.nodeAt .entry ⟨p.anchor, parts⟩ ≠ .ok (.link target)

/-- The path leads to a directory, by the names of the directories on the way. -/
structure IsRealDir (disk : Disk) (p : Path) : Prop where
  anchored : p.anchor = .root
  plain : ∀ part ∈ p.parts, IsPlain part
  isDir : ∃ entries, disk.tree.get? p.parts = some (.dir entries)

/-- A path as resolving leaves it: it climbs at its start only, and only if it is relative, and no
link is left on it. -/
structure Tracked (disk : Disk) (p : Path) : Prop where
  shape : ∃ count names, p.parts = List.replicate count ".." ++ names ∧
    (∀ name ∈ names, IsPlain name) ∧ (p.anchor = .relative ∨ p.anchor = .root ∧ count = 0)
  free : LinkFree disk p

/-- The relative path that climbs and then goes down along the names. -/
def climbing (count : Nat) (names : List String) : Path :=
  ⟨.relative, List.replicate count ".." ++ names⟩

/-- The place at which a climb from the current directory arrives. -/
def dirAbove (disk : Disk) (count : Nat) : List String :=
  disk.cwd.parts.take (disk.cwd.parts.length - count)

section Resolved

variable {disk : Disk}

lemma linkFree_child (p : Path) (name : String) (hp : LinkFree disk p)
    (h : ∀ target, disk.nodeAt .entry (p.child name) ≠ .ok (.link target)) :
    LinkFree disk (p.child name) := by
  intro parts hparts
  rcases List.prefix_concat_iff.mp hparts with rfl | hshorter
  · exact h
  · exact hp parts hshorter

lemma linkFree_realDir (p : Path) (hp : IsRealDir disk p) : LinkFree disk p := by
  intro parts hparts target hlink
  obtain ⟨place, hwalk⟩ := walk_of_nodeAt _ _ _ _ hlink
  have hplain : ∀ part ∈ parts, IsPlain part := fun part hpart =>
    hp.plain part (hparts.subset hpart)
  obtain ⟨entries, hdir⟩ := get?_take_dir disk.tree p.parts parts.length hp.isDir
  rw [← List.prefix_iff_eq_take.mp hparts] at hdir
  have hentry := walkWith_entry disk.tree (walk disk.tree .entry maxLinks) [] parts (.dir entries)
    hplain hdir
  have hstart : startOf disk ⟨p.anchor, parts⟩ = [] := by simp [startOf, hp.anchored]
  rw [hstart] at hwalk
  have hfound := hentry.symm.trans hwalk
  split_ifs at hfound
  simp at hfound

lemma up_climbing (count : Nat) : up (climbing count []) = climbing (count + 1) [] := by
  have hlast : List.replicate count ".." = [] ∨
      (List.replicate count "..").getLast? = some ".." := by
    cases count <;> simp [List.getLast?_replicate]
  unfold up climbing
  rw [List.append_nil, if_pos ⟨rfl, hlast⟩]
  simp [Path.child, ← List.replicate_succ']

lemma up_plain (anchor : Anchor) (parts : List String) (name : String) (hname : name ≠ "..") :
    up ⟨anchor, parts ++ [name]⟩ = ⟨anchor, parts⟩ := by
  unfold up
  rw [if_neg (by simp [hname])]
  simp [Path.parent]

lemma tracked_child (p : Path) (name : String) (hp : Tracked disk p) (hname : IsName name)
    (hup : name ≠ "..")
    (hlink : ∀ target, disk.nodeAt .entry (p.child name) ≠ .ok (.link target)) :
    Tracked disk (p.child name) := by
  obtain ⟨⟨count, names, hparts, hplain, hanchor⟩, hfree⟩ := hp
  refine ⟨⟨count, names ++ [name], ?_, ?_, hanchor⟩, linkFree_child p name hfree hlink⟩
  · simp [Path.child, hparts]
  · exact List.forall_mem_append.mpr ⟨hplain, by simpa using ⟨hname, hup⟩⟩

variable (hcwd : IsRealDir disk disk.cwd)

include hcwd

lemma realDir_take (count : Nat) : IsRealDir disk ⟨.root, disk.cwd.parts.take count⟩ where
  anchored := rfl
  plain part hpart := hcwd.plain part (List.mem_of_mem_take hpart)
  isDir := get?_take_dir disk.tree disk.cwd.parts count hcwd.isDir

lemma tracked_root : Tracked disk ⟨.root, []⟩ :=
  ⟨⟨0, [], rfl, by simp, Or.inr ⟨rfl, rfl⟩⟩, linkFree_realDir _ (realDir_take hcwd 0)⟩

lemma tracked_climbing (count : Nat) : Tracked disk (climbing count []) := by
  refine ⟨⟨count, [], rfl, by simp, Or.inl rfl⟩, ?_⟩
  intro parts hparts target hlink
  obtain ⟨place, hwalk⟩ := walk_of_nodeAt _ _ _ _ hlink
  have hparts : parts = List.replicate parts.length ".." := by
    rw [climbing, List.append_nil] at hparts
    exact (List.prefix_replicate_iff.mp hparts).2
  have hclimb := walkWith_climb disk.tree .entry (walk disk.tree .entry maxLinks) disk.cwd.parts []
    parts.length hcwd.isDir
  rw [List.append_nil, ← hparts] at hclimb
  have hend := hclimb.symm.trans hwalk
  obtain ⟨entries, hdir⟩ := (realDir_take hcwd (disk.cwd.parts.length - parts.length)).isDir
  simp [walkWith, hdir] at hend

lemma tracked_up (p : Path) (hp : Tracked disk p) : Tracked disk (up p) := by
  obtain ⟨⟨count, names, hparts, hplain, hanchor⟩, hfree⟩ := hp
  obtain ⟨anchor, parts⟩ := p
  dsimp only at hparts hanchor
  subst hparts
  rcases List.eq_nil_or_concat' names with rfl | ⟨shorter, name, rfl⟩
  · rcases hanchor with rfl | ⟨rfl, rfl⟩
    · have hup := tracked_climbing hcwd (count + 1)
      rwa [← up_climbing] at hup
    · exact tracked_root hcwd
  · have hname : name ≠ ".." := (hplain name (by simp)).2
    have hup := up_plain anchor (List.replicate count ".." ++ shorter) name hname
    rw [List.append_assoc] at hup
    rw [hup]
    refine ⟨⟨count, shorter, rfl, fun part hpart => hplain part (by simp [hpart]), hanchor⟩, ?_⟩
    intro parts hparts
    exact hfree parts (hparts.trans ⟨[name], by simp⟩)

lemma tracked_kept : KeptByResolving disk (Tracked disk) (fun _ => True) where
  root := tracked_root hcwd
  climb := tracked_up hcwd
  child := tracked_child
  circle _ _ _ _ _ := trivial
  rest _ _ _ := trivial

end Resolved

/-! ### Absolute paths -/

lemma foldl_push_replicate (stack : List String) (count : Nat) :
    (List.replicate count "..").foldl Path.push stack = stack.drop count := by
  induction count generalizing stack with
  | zero => rfl
  | succ count ih =>
    rw [List.replicate_succ, List.foldl_cons, ih, Path.push, if_pos rfl, List.drop_tail]

lemma canonical_climbing (disk : Disk) (count : Nat) (names : List String)
    (hcwd : IsRealDir disk disk.cwd) (hnames : ∀ name ∈ names, name ≠ "..") :
    Path.canonical disk.cwd (climbing count names) = ⟨.root, dirAbove disk count ++ names⟩ := by
  have hbase : ∀ part ∈ disk.cwd.parts, part ≠ ".." := fun part hpart => (hcwd.plain part hpart).2
  have hunder : disk.cwd.under (climbing count names) =
      ⟨.root, disk.cwd.parts ++ (List.replicate count ".." ++ names)⟩ := by
    simp [Path.under, climbing, hcwd.anchored]
  unfold Path.canonical Path.climb dirAbove
  rw [hunder, List.foldl_append, List.foldl_append, Path.foldl_push_of_forall_ne _ [] hbase,
    foldl_push_replicate, Path.foldl_push_of_forall_ne names _ hnames, List.append_nil,
    List.drop_reverse, List.reverse_append, List.reverse_reverse, List.reverse_reverse]

section Climbed

variable {disk : Disk} (hcwd : IsRealDir disk disk.cwd) (count : Nat) (names : List String)
  (hplain : ∀ name ∈ names, IsPlain name)
  (hsize : (climbing count names).render.utf8ByteSize ≤ maxPathBytes)

include hcwd hplain hsize

/-- If no link stands at a relative path, then none stands at the place to which it leads, unless
there is one on the way. -/
lemma nodeAt_dirAbove_ne (target : String)
    (hrelative : disk.nodeAt .entry (climbing count names) ≠ .ok (.link target))
    (hway : ∀ parts, parts <+: dirAbove disk count ++ names → parts ≠ dirAbove disk count ++ names →
      ∀ target, disk.nodeAt .entry ⟨.root, parts⟩ ≠ .ok (.link target)) :
    disk.nodeAt .entry ⟨.root, dirAbove disk count ++ names⟩ ≠ .ok (.link target) := by
  intro hlink
  have hbase : IsRealDir disk ⟨.root, dirAbove disk count⟩ := realDir_take hcwd _
  obtain ⟨place, hlocate⟩ := (nodeAt_eq_ok_iff disk .entry _ _).mp hlink
  obtain ⟨haskable, hwalk⟩ := (locate_eq_ok_iff disk .entry _ _).mp hlocate
  obtain ⟨rfl, hfits⟩ := locate_straight disk .entry _ _ (realDir_take hcwd 0).isDir
    (List.forall_mem_append.mpr ⟨hbase.plain, hplain⟩) (by simpa using hway) hlocate
  have hget := walk_get? disk.tree .entry _ _ _ _ _ hwalk
  have hnul : Char.ofNat 0 ∉ (climbing count names).render.toList := by
    apply nul_not_mem_render _ _ haskable.1
    intro part hpart
    rcases List.mem_append.mp hpart with hdots | hname
    · exact Or.inr (List.eq_of_mem_replicate hdots)
    · exact Or.inl (List.mem_append_right _ hname)
  exact hrelative (nodeAt_entry disk _ count names _ hcwd.isDir rfl hplain
    (fun name hname => hfits name (List.mem_append_right _ hname)) ⟨hnul, hsize⟩ hget)

/-- Seen from the current directory, a path without links has no link either, if its text is short
enough to be looked up. -/
lemma linkFree_dirAbove (hfree : LinkFree disk (climbing count names)) :
    LinkFree disk ⟨.root, dirAbove disk count ++ names⟩ := by
  suffices hshown : ∀ shown, shown <+: names →
      LinkFree disk ⟨.root, dirAbove disk count ++ shown⟩ from
    hshown names (List.prefix_refl names)
  intro shown hshown
  induction shown using List.reverseRecOn with
  | nil =>
    rw [List.append_nil]
    exact linkFree_realDir _ (realDir_take hcwd _)
  | append_singleton shown name ih =>
    have hbefore := ih ((List.prefix_append shown [name]).trans hshown)
    have hnames : ∀ part ∈ shown ++ [name], IsPlain part := fun part hpart =>
      hplain part (hshown.subset hpart)
    -- the whole text bounds the text of each longer and longer part of it
    have hshorter : (climbing count (shown ++ [name])).render.utf8ByteSize ≤ maxPathBytes := by
      obtain ⟨more, rfl⟩ := hshown
      have hle := size_render_append .relative (List.replicate count ".." ++ (shown ++ [name])) more
        (Or.inr (by simp))
      rw [List.append_assoc] at hle
      exact Nat.le_trans hle hsize
    have hrelative := hfree _
      ((List.prefix_append_right_inj (List.replicate count "..")).mpr hshown)
    rw [← List.append_assoc]
    apply linkFree_child _ name hbefore
    intro target
    have hnext := nodeAt_dirAbove_ne hcwd count (shown ++ [name]) hnames hshorter target
      (hrelative target)
    rw [← List.append_assoc] at hnext
    apply hnext
    intro parts hparts hne
    exact hbefore parts ((List.prefix_concat_iff.mp hparts).resolve_left hne)

end Climbed

section Settled

variable {disk : Disk}

/-- Resolving the path meets no circle of links, and if it comes to a relative path, then to one
that is short enough to be looked up. -/
def settles (disk : Disk) (p : Path) : Bool :=
  match resolution disk p with
  | .ok (.full found _) => found.anchor != .relative || found.render.utf8ByteSize ≤ maxPathBytes
  | _ => false

/-- An absolute path along plain names, with no link on it. -/
structure IsStraight (disk : Disk) (p : Path) : Prop where
  anchored : p.anchor = .root
  plain : ∀ part ∈ p.parts, IsPlain part
  free : LinkFree disk p

lemma straight_canonical (hcwd : IsRealDir disk disk.cwd) (found : Path)
    (hfound : Tracked disk found)
    (hsize : found.anchor = .relative → found.render.utf8ByteSize ≤ maxPathBytes) :
    IsStraight disk (Path.canonical disk.cwd found) := by
  obtain ⟨⟨count, names, hparts, hplain, hanchor⟩, hfree⟩ := hfound
  obtain ⟨anchor, parts⟩ := found
  dsimp only at hparts hanchor hsize
  subst hparts
  have hnames : ∀ name ∈ names, name ≠ ".." := fun name hname => (hplain name hname).2
  rcases hanchor with rfl | ⟨rfl, rfl⟩
  · have hbase : IsRealDir disk ⟨.root, dirAbove disk count⟩ := realDir_take hcwd _
    have hcanonical := canonical_climbing disk count names hcwd hnames
    rw [climbing] at hcanonical
    rw [hcanonical]
    exact ⟨rfl, List.forall_mem_append.mpr ⟨hbase.plain, hplain⟩,
      linkFree_dirAbove hcwd count names hplain (hsize rfl) hfree⟩
  · rw [canonical_of_isCanonical disk.cwd _ ⟨by simp, by simpa using hnames⟩]
    exact ⟨rfl, by simpa using hplain, hfree⟩

/-- Resolving a path that settles leaves no link on it. -/
theorem straight_resolve (hcwd : IsRealDir disk disk.cwd) (p q : Path) (hp : Spelled p)
    (hsettles : settles disk p = true) (h : disk.resolve p = .ok q) : IsStraight disk q := by
  obtain ⟨found, hfound, rfl⟩ := resolve_eq_ok p q h
  unfold settles at hsettles
  rw [hfound] at hsettles
  have htracked : ResolutionHolds (Tracked disk) (fun _ => True) found :=
    resolution_holds (tracked_kept hcwd) (tracked_climbing hcwd 0) p found hp hfound
  cases found with
  | full path seen =>
    have hsize : path.anchor = .relative → path.render.utf8ByteSize ≤ maxPathBytes := by
      intro hrelative
      simpa [hrelative] using hsettles
    exact straight_canonical hcwd path htracked.1 hsize
  | circle path => cases hsettles

lemma place_of_straight (hcwd : IsRealDir disk disk.cwd) (p : Path) (hp : IsStraight disk p)
    (wanted : Wanted) (spot : Spot) (h : disk.locate wanted p = .ok spot) :
    spot.place = p.parts := by
  obtain ⟨anchor, parts⟩ := p
  obtain ⟨rfl, hplain, hfree⟩ := hp
  have htree := (realDir_take hcwd 0).isDir
  exact (locate_straight disk wanted parts spot htree hplain
    (fun above habove _ => hfree above habove) h).1

/-! ### The project root -/

lemma resolveWith_linkFree (expand : Seen → Path → List String → Except Fault Resolution)
    (seen : Seen) (here : Path) (names : List String) (found : Resolution)
    (hplain : ∀ name ∈ names, IsPlain name)
    (hfree : LinkFree disk ⟨here.anchor, here.parts ++ names⟩)
    (h : resolveWith disk expand seen here names = .ok found) :
    found = .full ⟨here.anchor, here.parts ++ names⟩ seen := by
  induction names generalizing here with
  | nil =>
    obtain rfl : .full here seen = found := by simpa [resolveWith] using h
    simp
  | cons name rest ih =>
    obtain ⟨hname, hrest⟩ := List.forall_mem_cons.mp hplain
    have hsplit : here.parts ++ name :: rest = (here.child name).parts ++ rest := by
      simp [Path.child]
    rw [hsplit] at hfree ⊢
    unfold resolveWith at h
    rw [if_neg (ne_of_isPlain hname), if_neg hname.2] at h
    dsimp only at h
    split at h
    · cases h
    · next target hlink => exact absurd hlink (hfree _ (List.prefix_append _ _) target)
    · exact ih (here.child name) hrest hfree h

lemma resolve_realDir (root q : Path) (hroot : IsRealDir disk root)
    (h : disk.resolve root = .ok q) : q = root := by
  obtain ⟨found, hfound, rfl⟩ := resolve_eq_ok root q h
  have hfree := linkFree_realDir root hroot
  obtain ⟨anchor, parts⟩ := root
  obtain ⟨rfl, hplain, _⟩ := hroot
  have hfull : found = .full ⟨.root, parts⟩ [] :=
    resolveWith_linkFree _ [] ⟨.root, []⟩ parts found hplain hfree hfound
  rw [hfull]
  exact canonical_of_isCanonical disk.cwd ⟨.root, parts⟩
    ⟨by simp, fun part hpart => (hplain part hpart).2⟩

end Settled

/-! ### Requests -/

/-- The path that a request asks for: one that is neither absolute nor has a drive letter is seen
from the root. -/
def requested (root : Path) (candidate : String) : Path :=
  let text := forwardSlashes candidate
  let p := Path.ofString text
  if p.anchor ≠ .relative ∨ hasDrive text.toList then p else root.under p

lemma spelled_requested (root : Path) (candidate : String) (hroot : Spelled root) :
    Spelled (requested root candidate) := by
  unfold requested
  dsimp only
  split_ifs
  · exact spelled_ofString _
  · exact spelled_under root _ hroot (spelled_ofString _)

lemma admitWithin_eq_ok (disk : Disk) (root p q : Path) (refusal : PathRefusal)
    (h : admitWithin disk root p refusal = .ok q) :
    disk.resolve p = .ok q ∧ root.isWithin q = true := by
  unfold admitWithin at h
  split at h
  · cases h
  · next resolved hresolved =>
    split_ifs at h with hwithin
    obtain rfl := Except.ok.inj h
    exact ⟨hresolved, hwithin⟩

lemma confineBelow_eq_ok (disk : Disk) (root p : Path) (candidate : String)
    (h : confineBelow disk root candidate = .ok p) :
    disk.resolve (requested root candidate) = .ok p ∧ root.isWithin p = true := by
  unfold confineBelow at h
  unfold requested
  dsimp only at h ⊢
  split_ifs at h with hblank hanchored hup
  · rw [if_pos hanchored]
    exact admitWithin_eq_ok disk root _ p _ h
  · rw [if_neg hanchored]
    exact admitWithin_eq_ok disk root _ p _ h

/-- On a disk whose current directory is a real one, as the system has it, a path that is let
through lies below the root. If its request settles, no link is left on the path, and a lookup of it
ends at the place that it spells. -/
theorem confined_below_root (disk : Disk) (root p : Path) (candidate : String)
    (hcwd : IsRealDir disk disk.cwd) (hroot : IsRealDir disk root)
    (h : confine disk root candidate = .ok p) :
    (p.anchor = root.anchor ∧ root.parts <+: p.parts) ∧
      (settles disk (requested root candidate) = true → LinkFree disk p ∧
        ∀ wanted spot, disk.locate wanted p = .ok spot → spot.place = p.parts) := by
  unfold confine at h
  split at h
  · cases h
  · next root' hresolve =>
    obtain rfl := resolve_realDir root root' hroot hresolve
    obtain ⟨hp, hwithin⟩ := confineBelow_eq_ok disk root' p candidate h
    refine ⟨?_, ?_⟩
    · simp only [Path.isWithin, Bool.and_eq_true, beq_iff_eq, List.isPrefixOf_iff_prefix] at hwithin
      exact ⟨hwithin.1.symm, hwithin.2⟩
    · intro hsettles
      have hspelled : Spelled (requested root' candidate) :=
        spelled_requested root' candidate fun part hpart => (hroot.plain part hpart).1
      have hstraight := straight_resolve hcwd _ p hspelled hsettles hp
      exact ⟨hstraight.free, place_of_straight hcwd p hstraight⟩

/-- A project beside a directory that is not part of it, with a link that leads to itself, a link
out of the project and a link within it. -/
def linkedProject : Disk where
  tree := .dir [
    ("outside", .dir [("secret.ink", .file ⟨#[]⟩)]),
    ("proj", .dir [
      ("in", .link "story"),
      ("loop", .link "loop"),
      ("out", .link "../outside"),
      ("story", .dir [("main.ink", .file ⟨#[]⟩)])])]
  cwd := ⟨.root, ["proj"]⟩
  linkRoom := 900

lemma isRealDir_linkedProject : IsRealDir linkedProject ⟨.root, ["proj"]⟩ :=
  ⟨rfl, by decide, _, rfl⟩

theorem confined_below_root_linked :
    confine linkedProject ⟨.root, ["proj"]⟩ "C:\\..\\in/main.ink" =
        .ok ⟨.root, ["proj", "story", "main.ink"]⟩ ∧
      settles linkedProject (requested ⟨.root, ["proj"]⟩ "C:\\..\\in/main.ink") = true ∧
      ["proj"] <+: ["proj", "story", "main.ink"] ∧
      LinkFree linkedProject ⟨.root, ["proj", "story", "main.ink"]⟩ ∧
      ∀ wanted spot, linkedProject.locate wanted ⟨.root, ["proj", "story", "main.ink"]⟩ = .ok spot →
        spot.place = ["proj", "story", "main.ink"] := by
  have hconfine : confine linkedProject ⟨.root, ["proj"]⟩ "C:\\..\\in/main.ink" =
      .ok ⟨.root, ["proj", "story", "main.ink"]⟩ := by decide +kernel
  have hsettles :
      settles linkedProject (requested ⟨.root, ["proj"]⟩ "C:\\..\\in/main.ink") = true := by
    decide +kernel
  have hbelow := confined_below_root linkedProject ⟨.root, ["proj"]⟩ _ _ isRealDir_linkedProject
    isRealDir_linkedProject hconfine
  exact ⟨hconfine, hsettles, hbelow.1.2, hbelow.2 hsettles⟩

/-- Behind a circle of links a link out of the project goes unseen. -/
theorem link_unseen_behind_circle :
    IsRealDir linkedProject linkedProject.cwd ∧
      confine linkedProject ⟨.root, ["proj"]⟩ "/proj/loop/../out/secret.ink" =
        .ok ⟨.root, ["proj", "out", "secret.ink"]⟩ ∧
      ¬LinkFree linkedProject ⟨.root, ["proj", "out", "secret.ink"]⟩ ∧
      ∃ node, linkedProject.locate .target ⟨.root, ["proj", "out", "secret.ink"]⟩ =
        .ok ⟨["outside", "secret.ink"], node⟩ := by
  refine ⟨isRealDir_linkedProject, by decide +kernel, ?_, _, rfl⟩
  intro hfree
  exact hfree ["proj", "out"] ⟨["secret.ink"], rfl⟩ "../outside" rfl

end StoryAtlas.Proofs
