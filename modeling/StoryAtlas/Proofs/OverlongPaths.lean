import StoryAtlas.Proofs.RankedLinks

/-!
# A path too long to be looked up

A path that climbs far above the root is still a path to the root, but its text is too long for the
system, so that resolving takes every name behind it for one that does not exist. The links there
stay. Seen from the current directory the climb is gone, and a chain of links that is longer than
a lookup follows comes to light.
-/

namespace StoryAtlas.Proofs
open StoryAtlas.Disk

lemma nodeAt_of_long (disk : Disk) (wanted : Wanted) (p : Path) (hnul : NulFree p.parts)
    (hlong : maxPathBytes < p.render.utf8ByteSize) :
    disk.nodeAt wanted p = .error (.os .nameTooLong) := by
  have hfree : ¬p.render.toList.contains (Char.ofNat 0) = true := by
    have := (hasNul_eq_false_iff p).mpr hnul
    simpa [hasNul] using this
  unfold Disk.nodeAt Disk.locate
  dsimp only
  rw [if_neg hfree, if_pos hlong]

section Climb

variable (disk : Disk) (expand : Seen → Path → List String → Except Fault Resolution) (seen : Seen)

/-- Behind a path that is too long, names are kept as they are. -/
lemma resolveWith_of_long (here : Path) (names : List String)
    (hnames : ∀ name ∈ names, IsEntry name) (hnul : NulFree (here.parts ++ names))
    (hparts : here.parts ≠ []) (hlong : maxPathBytes < here.render.utf8ByteSize) :
    resolveWith disk expand seen here names =
      .ok (.full ⟨here.anchor, here.parts ++ names⟩ seen) := by
  induction names generalizing here with
  | nil => simp [resolveWith]
  | cons name rest ih =>
    obtain ⟨hname, hrest⟩ := List.forall_mem_cons.mp hnames
    have hsplit : here.parts ++ name :: rest = (here.child name).parts ++ rest := by
      simp [Path.child]
    have hlonger : maxPathBytes < (here.child name).render.utf8ByteSize :=
      Nat.lt_of_lt_of_le hlong
        (size_render_append here.anchor here.parts [name] (Or.inr hparts))
    rw [hsplit] at hnul ⊢
    have hnode : disk.nodeAt .entry (here.child name) = .error (.os .nameTooLong) :=
      nodeAt_of_long disk .entry _ (nulFree_of_subset hnul (List.subset_append_left _ _)) hlonger
    unfold resolveWith
    rw [if_neg hname.1, if_neg hname.2]
    dsimp only
    rw [hnode]
    exact ih (here.child name) hrest hnul (parts_child here name) hlonger

lemma resolveWith_climbs (start count : Nat) (rest : List String) :
    resolveWith disk expand seen (climbing start []) (List.replicate count ".." ++ rest) =
      resolveWith disk expand seen (climbing (start + count) []) rest := by
  induction count generalizing start with
  | zero => rfl
  | succ count ih =>
    have hdots : ¬(".." = "" ∨ ".." = ".") := by decide
    rw [List.replicate_succ, List.cons_append]
    conv_lhs => unfold resolveWith
    rw [if_neg hdots, if_pos rfl, up_climbing, ih]
    congr 2
    omega

end Climb

lemma two_mul_le_size_climb (count : Nat) :
    2 * count ≤ (String.intercalate "/" (List.replicate count "..")).utf8ByteSize := by
  induction count with
  | zero => simp
  | succ count ih =>
    cases count with
    | zero => decide
    | succ count =>
      have hdots : "..".utf8ByteSize = 2 := by decide
      rw [List.replicate_succ, List.replicate_succ, String.intercalate_cons_cons,
        ← List.replicate_succ]
      simp only [String.utf8ByteSize_append, hdots]
      omega

lemma size_climbing (count : Nat) :
    2 * count ≤ (climbing count []).render.utf8ByteSize := by
  have hsize := two_mul_le_size_climb count
  unfold climbing Path.render
  rw [List.append_nil]
  split_ifs with hdot
  · have hcount : count = 0 := by simpa using hdot.2
    omega
  · simpa [Anchor.text] using hsize

/-- The path that enters a drive and climbs out of it, up to far above the root. -/
def drivePath (count : Nat) (names : List String) : Path :=
  ⟨.relative, "C:" :: (List.replicate (count + 1) ".." ++ names)⟩

section Drive

variable {disk : Disk} {count : Nat} {names : List String} (hcwd : IsRealDir disk disk.cwd)
  (hdrive : ∀ target, disk.nodeAt .entry ⟨.relative, ["C:"]⟩ ≠ .ok (.link target))
  (hnames : ∀ name ∈ names, IsPlain name) (hnul : NulFree names)
  (hcount : maxPathBytes < 2 * count)

include hdrive hnames hnul hcount

/-- Nothing of the way down is looked at. -/
lemma resolution_drivePath :
    resolution disk (drivePath count names) = .ok (.full (climbing count names) []) := by
  have hentry : ∀ name ∈ names, IsEntry name := fun name hname =>
    ⟨ne_of_isPlain (hnames name hname), (hnames name hname).2⟩
  have hfree : NulFree (List.replicate count ".." ++ names) := by
    refine nulFree_append (fun part hpart => ?_) hnul
    rw [List.eq_of_mem_replicate hpart]
    decide
  have hparts : (climbing count []).parts ≠ [] := by
    simp [climbing]
    omega
  have hlong := Nat.lt_of_lt_of_le hcount (size_climbing count)
  have hdown := resolveWith_of_long disk (resolveWithin disk disk.linkRoom) []
    (climbing count []) names hentry (by simpa [climbing] using hfree) hparts hlong
  have hclimb := resolveWith_climbs disk (resolveWithin disk disk.linkRoom) [] 0 count names
  have hup : up (Path.child ⟨.relative, []⟩ "C:") = climbing 0 [] :=
    up_plain .relative [] "C:" (by decide)
  have hdots : ¬(".." = "" ∨ ".." = ".") := by decide
  have hletter : ¬("C:" = "" ∨ "C:" = ".") ∧ "C:" ≠ ".." := by decide
  rw [Nat.zero_add, hdown] at hclimb
  unfold resolution drivePath resolveWithin
  rw [if_pos rfl, resolveWith, if_neg hletter.1, if_neg hletter.2]
  dsimp only
  have hback : resolveWith disk (resolveWithin disk disk.linkRoom) []
      (Path.child ⟨.relative, []⟩ "C:") (List.replicate (count + 1) ".." ++ names) =
      .ok (.full (climbing count names) []) := by
    rw [List.replicate_succ, List.cons_append, resolveWith, if_neg hdots, if_pos rfl, hup, hclimb]
    simp [climbing]
  split
  · next hbad =>
    have hasNo : hasNul (Path.child ⟨.relative, []⟩ "C:") = false := by decide
    exact absurd hbad (nodeAt_ne_nulInPath disk .entry _ hasNo)
  · next target hlink => exact absurd hlink (hdrive target)
  · exact hback

include hcwd in
/-- The path leads over all links that stand on its way down from the root. -/
lemma overlong_drivePath (habove : disk.cwd.parts.length ≤ count)
    (hlinks : disk.nodeAt .target ⟨.root, names⟩ = .error (.os .tooManyLinks)) :
    Overlong disk (drivePath count names) := by
  refine ⟨rfl, climbing count names, [], resolution_drivePath hdrive hnames hnul hcount, rfl, ?_,
    ?_⟩
  · have hlonger := size_render_append .relative (List.replicate count "..") names
      (Or.inr (by simp; omega))
    have hsize := size_climbing count
    rw [climbing, List.append_nil] at hsize
    exact Nat.lt_of_lt_of_le hcount (hsize.trans hlonger)
  · rw [canonical_climbing disk count names hcwd fun name hname => (hnames name hname).2]
    have htop : dirAbove disk count = [] := by
      unfold dirAbove
      rw [Nat.sub_eq_zero_of_le habove, List.take_zero]
    rw [htop]
    exact hlinks

end Drive

/-! ### The text of the path -/

section Text

variable {count : Nat} {names : List String}

lemma mem_drivePath {part : String} (h : part ∈ (drivePath count names).parts) :
    part = "C:" ∨ part = ".." ∨ part ∈ names := by
  rcases List.mem_cons.mp h with rfl | hrest
  · exact Or.inl rfl
  · rcases List.mem_append.mp hrest with hdots | hname
    · exact Or.inr (Or.inl (List.eq_of_mem_replicate hdots))
    · exact Or.inr (Or.inr hname)

lemma hasDrive_render_drivePath : hasDrive (drivePath count names).render.toList = true := by
  have htext : (drivePath count names).render =
      "C:/" ++ String.intercalate "/" (List.replicate (count + 1) ".." ++ names) := by
    unfold drivePath Path.render
    rw [if_neg (by simp), List.replicate_succ, List.cons_append, String.intercalate_cons_cons]
    simp [Anchor.text]
  rw [htext, String.toList_append]
  rfl

lemma notMem_render_drivePath (c : Char) (hc : c ∉ "C:/..".toList)
    (hnames : ∀ name ∈ names, c ∉ name.toList) : c ∉ (drivePath count names).render.toList := by
  have hslash : c ≠ '/' := by
    rintro rfl
    exact hc (by decide)
  unfold Path.render
  rw [if_neg (by simp [drivePath]), String.toList_append, List.mem_append,
    mem_intercalate c _ hslash]
  rintro (hanchor | ⟨part, hpart, hmem⟩)
  · cases hanchor
  · rcases mem_drivePath hpart with rfl | rfl | hname
    · simp_all
    · simp_all
    · exact hnames part hname hmem

lemma ofString_render_drivePath (hnames : ∀ name ∈ names, IsName name) :
    Path.ofString (drivePath count names).render = drivePath count names := by
  apply ofString_render
  intro part hpart
  rcases mem_drivePath hpart with rfl | rfl | hname
  · simp [IsName, Path.isSolid]
  · simp [IsName, Path.isSolid]
  · exact hnames part hname

end Text

/-! ### A chain of links -/

def linkName (i : Nat) : String :=
  "l" ++ toString i

/-- A story file behind a chain of links, each of which leads to the next. -/
def linkChain : Entries :=
  (List.range 41).map (fun i => (linkName i, .link (linkName (i + 1)))) ++
    [(linkName 41, .file ⟨#[]⟩)]

/-- The number of links behind a name of the chain. -/
def chainRank (name : String) : Nat :=
  ((List.range 42).map linkName).reverse.idxOf name

lemma names_linkChain : linkChain.map Prod.fst = (List.range 42).map linkName := by
  decide +kernel

/-- What holds of the journals' directory, of each link and of the file holds of every entry. -/
lemma forall_mem_linkChain {P : String × Node → Prop} (hdir : P (".ink_index", .dir []))
    (hlink : ∀ i < 41, P (linkName i, .link (linkName (i + 1))))
    (hfile : P (linkName 41, .file ⟨#[]⟩)) :
    ∀ entry ∈ (".ink_index", .dir []) :: linkChain, P entry := by
  refine List.forall_mem_cons.mpr ⟨hdir, List.forall_mem_append.mpr ⟨?_, ?_⟩⟩
  · intro entry hentry
    obtain ⟨i, hi, rfl⟩ := List.mem_map.mp hentry
    exact hlink i (List.mem_range.mp hi)
  · exact List.forall_mem_singleton.mpr hfile

lemma proper_linkChain : Proper (.dir ((".ink_index", .dir []) :: linkChain)) := by
  have hplain : ∀ name ∈ ".ink_index" :: (List.range 42).map linkName, IsPlain name := by
    decide +kernel
  rw [← names_linkChain] at hplain
  refine .dir _ ?_ ?_ (forall_mem_linkChain (by simp) (by simp) (by simp))
  · intro entry hentry
    exact hplain entry.1 (List.mem_map_of_mem (f := Prod.fst) hentry)
  · rw [List.map_cons, names_linkChain]
    decide +kernel

lemma nulFreeTree_linkChain : NulFreeTree (.dir ((".ink_index", .dir []) :: linkChain)) := by
  have htargets : ∀ i < 41, Char.ofNat 0 ∉ (linkName (i + 1)).toList := by
    decide +kernel
  refine .dir _ ?_ (forall_mem_linkChain ?_ (fun i hi => .link _ (htargets i hi)) (.file _))
  · rw [List.map_cons, names_linkChain]
    unfold NulFree
    decide +kernel
  · exact .dir _ (by simp [NulFree]) (by simp)

lemma ranked_linkChain : Ranked chainRank (.dir ((".ink_index", .dir []) :: linkChain)) := by
  have hlower : ∀ i < 41, ∀ part ∈ targetParts (linkName (i + 1)),
      chainRank part < chainRank (linkName i) := by
    decide +kernel
  have hempty : Ranked chainRank (.dir []) := .dir _ (by simp) (by simp)
  refine .dir _ ?_ (forall_mem_linkChain hempty (fun _ _ => .link _) (.file _))
  have hlinks : ∀ entry ∈ (".ink_index", .dir []) :: linkChain, ∀ target, entry.2 = .link target →
      ∀ part ∈ targetParts target, chainRank part < chainRank entry.1 := by
    apply forall_mem_linkChain
    · simp
    · rintro i hi target heq
      obtain rfl := Node.link.inj heq
      exact hlower i hi
    · simp
  intro name target hmem
  exact hlinks _ hmem target rfl

lemma sound_linkChain : Sound (projectSession linkChain).disk := by
  have hgrounded := grounded_projectSession linkChain proper_linkChain
  refine ⟨hgrounded.tree, .dir _ ?_ ?_, isRealDir_cwd_projectSession linkChain⟩
  · simp [NulFree]
  · exact List.forall_mem_singleton.mpr nulFreeTree_linkChain

lemma ranked_tree_linkChain : Ranked chainRank (projectSession linkChain).disk.tree :=
  .dir _ (by simp) (List.forall_mem_singleton.mpr ranked_linkChain)

lemma loopFree_linkChain : LoopFree (projectSession linkChain).disk :=
  loopFree_of_ranked ranked_tree_linkChain _ fun _ => List.idxOf_le_length

/-- The way to the chain by a drive. -/
def longWay : Path :=
  drivePath 2048 ["proj", linkName 0]

lemma overlong_longWay : Overlong (projectSession linkChain).disk longWay := by
  have hdrive : (projectSession linkChain).disk.nodeAt .entry ⟨.relative, ["C:"]⟩ =
      .error (.os .notFound) := by
    rfl
  have hlinks : (projectSession linkChain).disk.nodeAt .target ⟨.root, ["proj", linkName 0]⟩ =
      .error (.os .tooManyLinks) := by
    rfl
  refine overlong_drivePath (isRealDir_cwd_projectSession linkChain) ?_ ?_ ?_ ?_ ?_ hlinks
  · simp [hdrive]
  · decide
  · unfold NulFree
    decide
  · decide
  · decide

end StoryAtlas.Proofs
