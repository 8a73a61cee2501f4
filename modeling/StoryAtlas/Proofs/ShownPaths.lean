import StoryAtlas.Proofs.ServerRuns

/-!
# Paths that lead back

A path as a server shows it, sent back to the server, leads to the same key again, if the text has
no backslash, is not blank, and does not look like a drive that the current directory does not have,
and if no link stands on the way. A key has a link on its way only if an update was let through
whose path met a circle of links or was a relative path too long to be looked up.
-/

namespace StoryAtlas.Proofs
open StoryAtlas.Disk StoryAtlas.Story Relation

/-! ### Resolving what is resolved -/

lemma nodeAt_ne_nulInPath (disk : Disk) (wanted : Wanted) (p : Path) (h : hasNul p = false) :
    disk.nodeAt wanted p ≠ .error .nulInPath := by
  unfold Disk.nodeAt
  rcases locate_of_not_hasNul disk wanted p h with ⟨⟨place, node⟩, hlocate⟩ | ⟨e, hlocate⟩
  · rw [hlocate]
    cases node <;> simp
  · rw [hlocate]
    simp

lemma hasNul_of_subset {p q : Path} (h : hasNul p = false) (hparts : q.parts ⊆ p.parts) :
    hasNul q = false := by
  have hp : Char.ofNat 0 ∉ p.render.toList := by simpa [hasNul] using h
  have hq := nul_not_mem_render p q hp fun part hpart => Or.inl (hparts hpart)
  simpa [hasNul] using hq

section Straight

variable {disk : Disk}

lemma resolveWith_of_free (expand : Seen → Path → List String → Except Fault Resolution)
    (seen : Seen) (here : Path) (names : List String) (hplain : ∀ name ∈ names, IsPlain name)
    (hfree : LinkFree disk ⟨here.anchor, here.parts ++ names⟩)
    (hnul : hasNul ⟨here.anchor, here.parts ++ names⟩ = false) :
    resolveWith disk expand seen here names =
      .ok (.full ⟨here.anchor, here.parts ++ names⟩ seen) := by
  induction names generalizing here with
  | nil => simp [resolveWith]
  | cons name rest ih =>
    obtain ⟨hname, hrest⟩ := List.forall_mem_cons.mp hplain
    have hsplit : here.parts ++ name :: rest = (here.child name).parts ++ rest := by
      simp [Path.child]
    rw [hsplit] at hfree hnul ⊢
    have hnext : hasNul (here.child name) = false :=
      hasNul_of_subset hnul (List.subset_append_left _ _)
    unfold resolveWith
    rw [if_neg (ne_of_isPlain hname), if_neg hname.2]
    dsimp only
    split
    · next hbad => exact absurd hbad (nodeAt_ne_nulInPath disk .entry _ hnext)
    · next target hlink => exact absurd hlink (hfree _ (List.prefix_append _ _) target)
    · exact ih (here.child name) hrest hfree hnul

/-- A walk that meets no link does not run out of links to replace. -/
lemma walkWith_ne_tooManyLinks (tree : Node)
    (expand : List String → List String → Except OsError Spot) (here names : List String)
    (hplain : ∀ name ∈ names, IsPlain name) (hhere : ∀ name ∈ here, Fits name)
    (hfree : ∀ place, place <+: here ++ names → (∀ name ∈ place, Fits name) →
      ∀ target, tree.get? place ≠ some (.link target)) :
    walkWith tree .target expand here names ≠ .error .tooManyLinks := by
  induction names generalizing here with
  | nil =>
    unfold walkWith
    split <;> simp
  | cons name rest ih =>
    obtain ⟨hname, hrest⟩ := List.forall_mem_cons.mp hplain
    have hsplit : here ++ name :: rest = here ++ [name] ++ rest := by simp
    unfold walkWith
    split
    · next entries hdir =>
      rw [if_neg (ne_of_isPlain hname), if_neg hname.2, if_neg (by simp)]
      split
      · simp
      next hlong =>
      have hnext : ∀ part ∈ here ++ [name], Fits part :=
        List.forall_mem_append.mpr ⟨hhere, by simpa [Fits] using hlong⟩
      rw [hsplit] at hfree
      split
      · split <;> simp
      · next target hlookup =>
        rw [lookup_eq_get? hdir] at hlookup
        exact absurd hlookup (hfree _ (List.prefix_append _ _) hnext target)
      · exact ih (here ++ [name]) hrest hnext hfree
    · simp
    · simp

lemma nodeAt_straight_ne (p : Path) (hp : IsStraight disk p)
    (htree : ∃ entries, disk.tree.get? [] = some (.dir entries)) :
    disk.nodeAt .target p ≠ .error (.os .tooManyLinks) := by
  obtain ⟨anchor, parts⟩ := p
  obtain ⟨rfl, hplain, hfree⟩ := hp
  have hwalk : Askable ⟨.root, parts⟩ →
      walk disk.tree .target (maxLinks + 1) [] parts ≠ .error .tooManyLinks := by
    intro haskable
    refine walkWith_ne_tooManyLinks disk.tree _ [] parts hplain (by simp) ?_
    intro place hplace hfits target hget
    obtain ⟨more, rfl⟩ := hplace
    have hshown := askable_append place more haskable
    exact hfree place (List.prefix_append place more) target
      (nodeAt_entry disk _ 0 place _ htree rfl
        (fun name hname => hplain name (List.mem_append_left more hname)) hfits hshown hget)
  unfold Disk.nodeAt Disk.locate
  dsimp only
  by_cases hnul : (Path.render ⟨.root, parts⟩).toList.contains (Char.ofNat 0) = true
  · rw [if_pos hnul]
    simp
  by_cases hlong : maxPathBytes < (Path.render ⟨.root, parts⟩).utf8ByteSize
  · rw [if_neg hnul, if_pos hlong]
    simp
  rw [if_neg hnul, if_neg hlong, if_neg (by decide)]
  have hends := hwalk ⟨by simpa using hnul, Nat.not_lt.mp hlong⟩
  cases hfound : walk disk.tree .target (maxLinks + 1) [] parts with
  | error e =>
    rw [hfound] at hends
    simpa using hends
  | ok spot =>
    obtain ⟨place, node⟩ := spot
    cases node <;> simp

/-- A resolution that comes to a path without links, which can be given to the system. -/
lemma resolve_of_resolution (p q : Path) (found : Resolution)
    (hfound : resolution disk p = .ok found) (hq : disk.absoluteOf found = q)
    (hstraight : IsStraight disk q) (hnul : hasNul q = false)
    (htree : ∃ entries, disk.tree.get? [] = some (.dir entries)) : disk.resolve p = .ok q := by
  unfold resolution at hfound
  unfold Disk.resolve
  dsimp only
  rw [hfound]
  dsimp only
  rw [hq]
  split
  · next hbad => exact absurd hbad (nodeAt_straight_ne q hstraight htree)
  · next hbad => exact absurd hbad (nodeAt_ne_nulInPath disk .target q hnul)
  · rfl

lemma resolve_straight (p : Path) (hp : IsStraight disk p) (hnul : hasNul p = false)
    (htree : ∃ entries, disk.tree.get? [] = some (.dir entries)) : disk.resolve p = .ok p := by
  have hcanonical : Path.canonical disk.cwd p = p := canonical_of_isCanonical disk.cwd p
    ⟨by simp [hp.anchored], fun part hpart => (hp.plain part hpart).2⟩
  refine resolve_of_resolution p p (.full p []) ?_ hcanonical hp hnul htree
  obtain ⟨anchor, parts⟩ := p
  obtain rfl : anchor = .root := hp.anchored
  exact resolveWith_of_free _ [] ⟨.root, []⟩ parts hp.plain hp.free hnul

section Relative

variable (names : List String) (hcwd : IsRealDir disk disk.cwd)
  (hp : IsStraight disk ⟨.root, disk.cwd.parts ++ names⟩)
  (haskable : Askable ⟨.root, disk.cwd.parts ++ names⟩)
  (hfits : ∀ part ∈ disk.cwd.parts ++ names, Fits part)

include hcwd hp haskable hfits

/-- Seen from the current directory, a path below it has no link either, if the absolute path can be
looked up. -/
lemma linkFree_relative : LinkFree disk ⟨.relative, names⟩ := by
  have htree := get?_take_dir disk.tree disk.cwd.parts 0 hcwd.isDir
  have hnone : ∀ place, place <+: disk.cwd.parts ++ names → ∀ target,
      disk.tree.get? place ≠ some (.link target) := by
    intro place hplace target hget
    obtain ⟨more, hmore⟩ := hplace
    rw [← hmore] at haskable hfits
    have hplain : ∀ name ∈ place, IsPlain name := fun name hname =>
      hp.plain name (by rw [← hmore]; exact List.mem_append_left more hname)
    exact hp.free place ⟨more, hmore⟩ target (nodeAt_entry disk _ 0 place _ htree rfl hplain
      (fun name hname => hfits name (List.mem_append_left more hname))
      (askable_append place more haskable) hget)
  intro parts hparts target hlink
  have hshorter := (List.prefix_append_right_inj disk.cwd.parts).mpr hparts
  obtain ⟨place, hwalk⟩ := walk_of_nodeAt disk .entry _ _ hlink
  obtain ⟨hplace, _⟩ := walkWith_straight disk.tree .entry _ disk.cwd.parts parts _
    (fun name hname => hp.plain name (hshorter.subset (List.mem_append_right _ hname)))
    (fun name hname => hfits name (List.mem_append_left _ hname))
    (fun place hplace _ _ => hnone place (hplace.trans hshorter)) hwalk
  have hget := walk_get? _ _ _ _ _ _ _ hwalk
  rw [show place = disk.cwd.parts ++ parts from hplace] at hget
  exact hnone _ hshorter target hget

/-- A relative path resolves to the place below the current directory that it names. -/
lemma resolve_relative :
    disk.resolve ⟨.relative, names⟩ = .ok ⟨.root, disk.cwd.parts ++ names⟩ := by
  have hplain : ∀ name ∈ names, IsPlain name := fun name hname =>
    hp.plain name (List.mem_append_right _ hname)
  have hnul : hasNul ⟨.root, disk.cwd.parts ++ names⟩ = false := by
    simpa [hasNul] using haskable.1
  have hcanonical : Path.canonical disk.cwd ⟨.relative, names⟩ =
      ⟨.root, disk.cwd.parts ++ names⟩ := by
    have hclimb := canonical_climbing disk 0 names hcwd fun name hname => (hplain name hname).2
    simpa [climbing, dirAbove] using hclimb
  refine resolve_of_resolution _ _ (.full ⟨.relative, names⟩ []) ?_ hcanonical hp hnul
    (get?_take_dir disk.tree disk.cwd.parts 0 hcwd.isDir)
  exact resolveWith_of_free _ [] ⟨.relative, []⟩ names hplain
    (linkFree_relative names hcwd hp haskable hfits)
    (hasNul_of_subset hnul (List.subset_append_right _ _))

end Relative

end Straight

/-! ### Sending a shown path back -/

/-- The text under which a key is shown means the key again. Backslashes would be taken for slashes,
and blanks for nothing. What looks like a drive is seen from the current directory, and this leads
to the key if that is the root and the system can look the key up. -/
structure Sendable (session : Session) (k : Path) : Prop where
  slashes : '\\' ∉ (session.display k).toList
  blank : Text.isBlankText (session.display k) = false
  drive : hasDrive (session.display k).toList = true →
    session.disk.cwd = session.config.projectRoot ∧ k.render.utf8ByteSize ≤ maxPathBytes ∧
      ∀ part ∈ k.parts, Fits part

lemma forwardSlashes_of_notMem (s : String) (h : '\\' ∉ s.toList) : forwardSlashes s = s := by
  have hmap : s.toList.map (fun c => if c = '\\' then '/' else c) = s.toList := by
    conv_rhs => rw [← List.map_id s.toList]
    refine List.map_congr_left fun c hc => ?_
    rw [if_neg]
    · rfl
    · rintro rfl
      exact h hc
  rw [forwardSlashes, hmap, String.ofList_toList]

/-- The text of a path below the root is let through to where the path leads. -/
lemma confine_of_text (disk : Disk) (above names : List String) (text : String)
    (hroot : IsRealDir disk ⟨.root, above⟩) (hcwd : IsRealDir disk disk.cwd)
    (hk : IsStraight disk ⟨.root, above ++ names⟩) (hnul : hasNul ⟨.root, above ++ names⟩ = false)
    (htext : Path.ofString text = ⟨.relative, names⟩) (hslashes : '\\' ∉ text.toList)
    (hblank : Text.isBlankText text = false)
    (hdrive : hasDrive text.toList = true → disk.cwd = ⟨.root, above⟩ ∧
      (Path.render ⟨.root, above ++ names⟩).utf8ByteSize ≤ maxPathBytes ∧
        ∀ part ∈ above ++ names, Fits part) :
    confine disk ⟨.root, above⟩ text = .ok ⟨.root, above ++ names⟩ := by
  have htree := get?_take_dir disk.tree disk.cwd.parts 0 hcwd.isDir
  have hsame : disk.resolve ⟨.root, above⟩ = .ok ⟨.root, above⟩ :=
    resolve_straight _ ⟨rfl, hroot.plain, linkFree_realDir _ hroot⟩
      (hasNul_of_subset hnul (List.subset_append_left _ _)) htree
  have hadmit : ∀ p refusal, disk.resolve p = .ok ⟨.root, above ++ names⟩ →
      admitWithin disk ⟨.root, above⟩ p refusal = .ok ⟨.root, above ++ names⟩ := by
    intro p refusal hresolve
    unfold admitWithin
    rw [hresolve]
    exact if_pos (by simp [Path.isWithin])
  unfold confine confineBelow
  rw [hsame]
  dsimp only
  rw [forwardSlashes_of_notMem text hslashes, htext, hblank, if_neg (by simp)]
  -- only a text that looks like a drive is not put behind the root before it is resolved
  by_cases hlooks : hasDrive text.toList = true
  · obtain ⟨hcwdRoot, hsize, hfits⟩ := hdrive hlooks
    have hparts : disk.cwd.parts = above := by rw [hcwdRoot]
    rw [if_pos (Or.inr hlooks)]
    apply hadmit
    rw [← hparts] at hk hnul hsize hfits ⊢
    exact resolve_relative names hcwd hk ⟨by simpa [hasNul] using hnul, hsize⟩ hfits
  · have hclimbs : ¬names.contains ".." = true := by
      intro hup
      have hmem : ".." ∈ names := by simpa using hup
      exact (hk.plain ".." (List.mem_append_right above hmem)).2 rfl
    rw [if_neg (by simpa using hlooks), if_neg hclimbs]
    exact hadmit _ _ (resolve_straight _ hk hnul htree)

/-- A path that is shown is let through to the key that it stands for. -/
lemma confine_display (session : Session) (k : Path)
    (hroot : IsRealDir session.disk session.config.projectRoot)
    (hcwd : IsRealDir session.disk session.disk.cwd) (hk : Below session.config.projectRoot k)
    (hnul : hasNul k = false) (hfree : LinkFree session.disk k) (h : Sendable session k) :
    confine session.disk session.config.projectRoot (session.display k) = .ok k := by
  obtain ⟨names, hnames⟩ := hk.within
  have hsplit : session.config.projectRoot = ⟨.root, session.config.projectRoot.parts⟩ := by
    rw [← hroot.anchored]
  have hwhole : k = ⟨.root, session.config.projectRoot.parts ++ names⟩ := by
    rw [hnames, ← hk.anchored]
  have htext : Path.ofString (session.display k) = ⟨.relative, names⟩ := by
    have hwithin : session.config.projectRoot.isWithin k = true := by
      simp [Path.isWithin, hroot.anchored, hk.anchored, hk.within]
    have hbelow : session.config.projectRoot.below k = ⟨.relative, names⟩ := by
      rw [Path.below, ← hnames, List.drop_left]
    unfold Session.display
    dsimp only
    rw [if_pos hwithin, hbelow]
    refine ofString_render _ fun part hpart => (hk.plain part ?_).1
    rw [← hnames]
    exact List.mem_append_right _ hpart
  have hconfine := confine_of_text session.disk session.config.projectRoot.parts names
    (session.display k) (hsplit ▸ hroot) hcwd (hwhole ▸ ⟨hk.anchored, hk.plain, hfree⟩)
    (hwhole ▸ hnul) htext h.slashes h.blank
  rw [← hsplit, ← hwhole] at hconfine
  exact hconfine fun hlooks => hnames ▸ h.drive hlooks

/-! ### Keys without links -/

/-- No link stands on the way to what stands in the tree, unless it is a link itself. -/
lemma linkFree_of_get? (disk : Disk) (p : Path) (node : Node) (hanchor : p.anchor = .root)
    (hplain : ∀ part ∈ p.parts, IsPlain part) (hget : disk.tree.get? p.parts = some node)
    (hnode : ∀ target, node ≠ .link target) : LinkFree disk p := by
  rintro parts ⟨more, hmore⟩ target hlink
  have habove : ∃ found, disk.tree.get? parts = some found ∧ ∀ target, found ≠ .link target := by
    rw [← hmore] at hget
    cases more with
    | nil => exact ⟨node, by simpa using hget, hnode⟩
    | cons name more =>
      obtain ⟨entries, _, hdir, _⟩ := get?_append_cons disk.tree node parts more name hget
      exact ⟨_, hdir, by simp⟩
  obtain ⟨found, hfound, hnot⟩ := habove
  obtain ⟨place, hwalk⟩ := walk_of_nodeAt _ _ _ _ hlink
  have hentry := walkWith_entry disk.tree (walk disk.tree .entry maxLinks) [] parts found
    (fun part hpart => hplain part (by rw [← hmore]; exact List.mem_append_left more hpart)) hfound
  have hstart : startOf disk ⟨p.anchor, parts⟩ = [] := by simp [startOf, hanchor]
  rw [hstart] at hwalk
  have hends := hentry.symm.trans hwalk
  split_ifs at hends
  simp only [Except.ok.injEq, Spot.mk.injEq, Option.some.injEq] at hends
  exact hnot target hends.2

section LogWrites

variable {config : Config} {disk after : Disk} (h : ReflTransGen (LogWrite config) disk after)

include h

lemma linkFree_logWrites (k : Path) (hfree : LinkFree disk k) : LinkFree after k := by
  induction h with
  | refl => exact hfree
  | tail _ hwrite ih =>
    obtain ⟨name, _, happend⟩ := hwrite
    intro parts hparts target hlink
    exact ih parts hparts target
      (nodeAt_link_appendsTo (parts_child config.dataDir name) happend _ target hlink)

lemma isRealDir_cwd_logWrites (hcwd : IsRealDir disk disk.cwd) : IsRealDir after after.cwd := by
  induction h with
  | refl => exact hcwd
  | tail _ hwrite ih =>
    obtain ⟨name, _, happend⟩ := hwrite
    have hp := parts_child config.dataDir name
    rw [cwd_appendsTo hp happend]
    exact isRealDir_grown (grown_appendsTo hp happend) ih

end LogWrites

/-- While nobody else changes the disk, only logs are written. -/
lemma logWrites_reached {first session : Session} (h : Reached (fun _ => False) first session) :
    ReflTransGen (LogWrite first.config) first.disk session.disk := by
  induction h with
  | start => exact .refl
  | @call session call h ih =>
    have hlogged := (logged_call session call).disk
    rw [config_reached h] at hlogged
    exact ih.trans hlogged
  | change disk hdisk h ih => exact hdisk.elim

lemma hasNul_of_resolve {disk : Disk} {p q : Path} (h : disk.resolve p = .ok q) :
    hasNul q = false := by
  by_contra hnul
  have hnul : hasNul q = true := by simpa using hnul
  obtain ⟨found, hfound, habsolute⟩ := resolve_eq_ok p q h
  unfold resolution at hfound
  unfold Disk.resolve at h
  dsimp only at h
  rw [hfound] at h
  dsimp only at h
  rw [habsolute, Disk.nodeAt, locate_of_hasNul disk .target q hnul] at h
  cases h

/-- The call is an update with the text under the key, and its path does not settle: it meets a
circle of links, or it is a relative path too long to be looked up. -/
def UnsettledUpdate (session : Session) (call : Call) (k : Path) (text : String) : Prop :=
  ∃ request candidate, call.Asks session request ∧ request.tool = "ink.update" ∧
    request.arguments.get? "path" = some (.str candidate) ∧
    Admitted session request.arguments k text ∧
    settles session.disk (requested session.config.projectRoot candidate) = false

/-- A key has no link on its way on the disk it comes from, unless its update did not settle. -/
lemma linkFree_of_origin {session : Session} {call : Call} {k : Path} {text : String}
    (hdisk : Grounded session.config.projectRoot session.disk)
    (hcwd : IsRealDir session.disk session.disk.cwd) (h : Origin session call k text) :
    hasNul k = false ∧ (LinkFree session.disk k ∨ UnsettledUpdate session call k text) := by
  cases h with
  | found content hanchor hwithin hfile hnul =>
    have hplain := (proper_get? _ _ _ hdisk.tree hfile).2
    exact ⟨hnul, Or.inl (linkFree_of_get? session.disk k _ hanchor hplain hfile (by simp))⟩
  | updated request hasks htool hadmitted =>
    obtain ⟨candidate, hpath, hconfine⟩ := confine_of_admitted hdisk hadmitted
    obtain ⟨hresolve, _⟩ := resolve_of_confine hdisk.root hconfine
    refine ⟨hasNul_of_resolve hresolve, ?_⟩
    by_cases hsettles :
        settles session.disk (requested session.config.projectRoot candidate) = true
    · have hspelled : Spelled (requested session.config.projectRoot candidate) :=
        spelled_requested _ candidate fun part hpart => (hdisk.root.plain part hpart).1
      exact Or.inl (straight_resolve hcwd _ k hspelled hsettles hresolve).free
    · exact Or.inr ⟨request, candidate, hasks, htool, hpath, hadmitted, by simpa using hsettles⟩

/-- The text that a server shows for a key leads to the key again, if it can be sent and no link
stands on the way; and a link stands there only if the story was taken in under the key by an update
whose path met a circle of links, or was a relative path too long to be looked up. -/
theorem shown_path_leads_back (first session : Session) (hfirst : first.index.files = [])
    (hdata : Spelled first.config.dataDir)
    (hdisk : Grounded first.config.projectRoot first.disk)
    (hcwd : IsRealDir first.disk first.disk.cwd)
    (h : Reached (fun _ => False) first session) (k : Path) (file : StoryFile)
    (hmem : (k, file) ∈ session.index.files) :
    (LinkFree session.disk k ∨ ∃ before call text, Reached (fun _ => False) first before ∧
      Reached (fun _ => False) (call.apply before) session ∧ call.TakesIn before k file ∧
      file = StoryFile.read k text ∧ UnsettledUpdate before call k text) ∧
    (LinkFree session.disk k → Sendable session k → ∀ tool arguments,
      Fields.get? arguments "path" = some (.str (session.display k)) →
        session.pathFor tool arguments = .ok k) := by
  have hgrounded : ∀ before, Reached (fun _ => False) first before →
      Grounded first.config.projectRoot before.disk := fun before hbefore =>
    grounded_logWrites hdata (logWrites_reached hbefore) hdisk
  have hreal : ∀ before, Reached (fun _ => False) first before →
      IsRealDir before.disk before.disk.cwd := fun before hbefore =>
    isRealDir_cwd_logWrites (logWrites_reached hbefore) hcwd
  obtain ⟨before, call, text, hfile, hbefore, hafter, htakes, horigin⟩ :=
    exists_origin _ first session hfirst h hgrounded k file hmem
  have hdiskBefore := hgrounded before hbefore
  rw [← config_reached hbefore] at hdiskBefore
  obtain ⟨hnul, hlinks⟩ := linkFree_of_origin hdiskBefore (hreal before hbefore) horigin
  refine ⟨?_, fun hfree hsendable tool arguments hpath => ?_⟩
  · rcases hlinks with hfree | hunsettled
    · have hwrites := logWrites_reached (reached_of_call hafter)
      exact Or.inl (linkFree_logWrites hwrites k hfree)
    · exact Or.inr ⟨before, call, text, hbefore, hafter, htakes, hfile, hunsettled⟩
  · have hk := below_of_origin hdiskBefore horigin
    have hroot := (hgrounded session h).root
    rw [config_reached hbefore, ← config_reached h] at hk
    rw [← config_reached h] at hroot
    have hconfine := confine_display session k hroot (hreal session h) hk hnul hfree hsendable
    refine (pathFor_eq_ok_iff session tool arguments k).mpr ⟨_, k, hpath, ?_, hconfine, ?_⟩
    · intro hempty
      have hblank := hsendable.blank
      rw [hempty] at hblank
      cases hblank
    · rw [Index.key, canonical_of_below hk]

/-! ### A drive and a backslash -/

/-- A story in a directory whose name ends in a colon. -/
def driveProject : Entries :=
  [("C:", .dir [("x.ink", .file ⟨#[]⟩)])]

/-- A story with a backslash in its name. -/
def slashProject : Entries :=
  [("a\\b.ink", .file ⟨#[]⟩)]

lemma proper_driveProject : Proper (.dir ((".ink_index", .dir []) :: driveProject)) := by
  have hdrive : Proper (.dir [("x.ink", .file ⟨#[]⟩)]) :=
    .dir _ (by decide) (by simp) (by simp)
  exact .dir _ (by decide) (by decide) (by simp [driveProject, hdrive])

lemma proper_slashProject : Proper (.dir ((".ink_index", .dir []) :: slashProject)) :=
  .dir _ (by decide) (by decide) (by simp [slashProject])

lemma exists_mem_of_keys {files : List (Path × StoryFile)} {k : Path}
    (h : files.map Prod.fst = [k]) : ∃ file, (k, file) ∈ files := by
  have hmem : k ∈ files.map Prod.fst := by simp [h]
  obtain ⟨⟨key, file⟩, hfile, rfl⟩ := List.mem_map.mp hmem
  exact ⟨file, hfile⟩

/-- The text that is shown for a key need not lead to the key again. -/
theorem shown_path_leads_elsewhere : ¬∀ first session k file tool arguments,
    first.index.files = [] → Spelled first.config.dataDir →
    Grounded first.config.projectRoot first.disk → IsRealDir first.disk first.disk.cwd →
    Reached (fun _ => False) first session → (k, file) ∈ session.index.files →
    Fields.get? arguments "path" = some (.str (session.display k)) →
      session.pathFor tool arguments = .ok k := by
  intro hback
  let first := projectSession slashProject
  have hkeys : (Call.apply first (.build sampleMoment)).index.files.map Prod.fst =
      [⟨.root, ["proj", "a\\b.ink"]⟩] := by
    decide +kernel
  have hshown : (Call.apply first (.build sampleMoment)).display ⟨.root, ["proj", "a\\b.ink"]⟩ =
      "a\\b.ink" := by
    decide +kernel
  have hpath : (Call.apply first (.build sampleMoment)).pathFor .outline
      [("path", .str "a\\b.ink")] = .ok ⟨.root, ["proj", "a", "b.ink"]⟩ := by
    decide +kernel
  obtain ⟨file, hfile⟩ := exists_mem_of_keys hkeys
  have hsame := hback first _ _ file .outline [("path", .str "a\\b.ink")] rfl
    (spelled_dataDir_projectSession _) (grounded_projectSession _ proper_slashProject)
    (isRealDir_cwd_projectSession _) (.call (.build sampleMoment) .start) hfile
    (by rw [hshown]; rfl)
  have hother := hpath.symm.trans hsame
  revert hother
  decide

theorem shown_path_leads_back_drive :
    let first := projectSession driveProject
    let session := Call.apply first (.build sampleMoment)
    let k : Path := ⟨.root, ["proj", "C:", "x.ink"]⟩
    first.index.files = [] ∧ Spelled first.config.dataDir ∧
      Grounded first.config.projectRoot first.disk ∧ IsRealDir first.disk first.disk.cwd ∧
      Reached (fun _ => False) first session ∧ session.index.files.map Prod.fst = [k] ∧
      session.display k = "C:/x.ink" ∧ LinkFree session.disk k ∧ Sendable session k ∧
      session.pathFor .outline [("path", .str "C:/x.ink")] = .ok k := by
  intro first session k
  have hreached : Reached (fun _ => False) first session := .call (.build sampleMoment) .start
  have hgrounded := grounded_projectSession _ proper_driveProject
  have hdata := spelled_dataDir_projectSession driveProject
  have hcwd := isRealDir_cwd_projectSession driveProject
  have hkeys : session.index.files.map Prod.fst = [k] := by
    decide +kernel
  have hshown : session.display k = "C:/x.ink" := by
    decide +kernel
  have hfree : LinkFree session.disk k := by
    refine linkFree_logWrites (logWrites_reached hreached) k ?_
    exact linkFree_of_get? first.disk k (.file ⟨#[]⟩) rfl (by decide) rfl (by simp)
  have hsendable : Sendable session k := by
    refine ⟨by rw [hshown]; decide, by rw [hshown]; decide, fun _ => ⟨?_, by decide, by decide⟩⟩
    decide +kernel
  obtain ⟨file, hfile⟩ := exists_mem_of_keys hkeys
  refine ⟨rfl, hdata, hgrounded, hcwd, hreached, hkeys, hshown, hfree, hsendable, ?_⟩
  exact (shown_path_leads_back first session rfl hdata hgrounded hcwd hreached k file hfile).2 hfree
    hsendable .outline [("path", .str "C:/x.ink")] (by rw [hshown]; rfl)

end StoryAtlas.Proofs
