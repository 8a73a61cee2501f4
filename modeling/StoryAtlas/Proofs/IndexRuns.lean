import Mathlib.Data.List.Basic
import Mathlib.Data.List.Induction
import StoryAtlas.Index.Build

/-!
# Runs of an index

An index changes by updates, removals and builds. A step is one such call with everything it sees,
and a run is a list of steps from the empty index. For each kind of step this file says what it does
to the entry of a path and to the set of paths that the last build has loaded.
-/

namespace StoryAtlas.Proofs
open StoryAtlas.Disk StoryAtlas.Story

/-- One call that can change an index. A build sees the disk as it is at that moment. -/
inductive Step where
  | update (p : Path) (text : String)
  | remove (p : Path)
  | build (disk : Disk) (maxBytes : Int) (paths : List Path) (timestamp : String)
      (durationMs : Nat)
  | buildProject (disk : Disk) (maxBytes : Int) (filter : FileFilter) (projectRoot : Path)
      (timestamp : String) (durationMs : Nat)

/-- The index after a step. A build that fails leaves it as it was. -/
def Step.apply (index : Index) : Step → Index
  | .update p text => (index.update p text).1
  | .remove p => (index.remove p).1
  | .build disk maxBytes paths timestamp durationMs =>
    match index.build disk maxBytes paths timestamp durationMs with
    | .ok result => result.1
    | .error _ => index
  | .buildProject disk maxBytes filter projectRoot timestamp durationMs =>
    match index.buildProject disk maxBytes filter projectRoot timestamp durationMs with
    | .ok result => result.1
    | .error _ => index

/-- The index that a list of steps makes of the empty one. -/
def run (base : Path) (steps : List Step) : Index :=
  steps.foldl Step.apply (Index.empty base)

lemma run_append_singleton (base : Path) (steps : List Step) (step : Step) :
    run base (steps ++ [step]) = step.apply (run base steps) := by
  simp [run]

/-! ### Entries -/

lemma lookup_entry_cons (k' k : Path) (file : StoryFile) (rest : List (Path × StoryFile)) :
    ((k', file) :: rest).lookup k = if k = k' then some file else rest.lookup k := by
  by_cases hk : k = k'
  · simp [hk]
  · have hbeq : (k == k') = false := beq_eq_false_iff_ne.mpr hk
    rw [List.lookup_cons, hbeq, if_neg hk]

lemma lookup_putIn (key k : Path) (file : StoryFile) (files : List (Path × StoryFile)) :
    (Index.putIn key file files).lookup k = if k = key then some file else files.lookup k := by
  induction files with
  | nil => exact lookup_entry_cons key k file []
  | cons entry rest ih =>
    obtain ⟨k', file'⟩ := entry
    unfold Index.putIn
    by_cases hkey : k' = key
    · rw [if_pos hkey, hkey, lookup_entry_cons, lookup_entry_cons]
      split_ifs <;> rfl
    · rw [if_neg hkey, lookup_entry_cons, lookup_entry_cons, ih]
      by_cases hk : k = k'
      · have hne : k ≠ key := fun h => hkey (hk.symm.trans h)
        rw [if_pos hk, if_neg hne, if_pos hk]
      · rw [if_neg hk, if_neg hk]

lemma lookup_filter_key (keep : Path → Bool) (files : List (Path × StoryFile)) (k : Path) :
    (files.filter fun entry => keep entry.1).lookup k =
      if keep k = true then files.lookup k else none := by
  induction files with
  | nil => simp
  | cons entry rest ih =>
    obtain ⟨k', file⟩ := entry
    rw [List.filter_cons, lookup_entry_cons]
    by_cases hkeep : keep k' = true
    · rw [if_pos hkeep, lookup_entry_cons, ih]
      by_cases hk : k = k'
      · rw [if_pos hk, if_pos hk, hk, if_pos hkeep]
      · rw [if_neg hk, if_neg hk]
    · rw [if_neg hkeep, ih]
      by_cases hk : k = k'
      · rw [hk, if_neg hkeep, if_neg hkeep]
      · rw [if_neg hk]

lemma entry?_update (index : Index) (p k : Path) (text : String) :
    Index.entry? (index.update p text).1 k =
      if k = index.key p then some (StoryFile.read (index.key p) text) else index.entry? k :=
  lookup_putIn (index.key p) k _ index.files

lemma entry?_remove (index : Index) (p k : Path) :
    Index.entry? (index.remove p).1 k = if k = index.key p then none else index.entry? k := by
  by_cases hknown : (index.entry? (index.key p)).isSome = true
  · have hremove : Index.entry? (index.remove p).1 k =
        (index.files.filter fun entry => entry.1 != index.key p).lookup k := by
      simp only [Index.remove, if_pos hknown]
      rfl
    rw [hremove, lookup_filter_key (fun key => key != index.key p)]
    by_cases hk : k = index.key p
    · simp [hk]
    · simp [hk, Index.entry?]
  · have hremove : (index.remove p).1 = index := by
      simp only [Index.remove, if_neg hknown]
    rw [hremove]
    by_cases hk : k = index.key p
    · rw [if_pos hk, hk]
      exact Option.not_isSome_iff_eq_none.mp hknown
    · rw [if_neg hk]

lemma lookup_putAll_of_forall_ne (loaded : List StoryFile) (files : List (Path × StoryFile))
    (k : Path) (h : ∀ file ∈ loaded, file.path ≠ k) :
    (loaded.foldl (fun files file => Index.putIn file.path file files) files).lookup k =
      files.lookup k := by
  induction loaded generalizing files with
  | nil => rfl
  | cons file rest ih =>
    obtain ⟨hfile, hrest⟩ := List.forall_mem_cons.mp h
    rw [List.foldl_cons, ih _ hrest, lookup_putIn, if_neg (Ne.symm hfile)]

lemma lookup_putAll_of_mem (loaded : List StoryFile) (files : List (Path × StoryFile))
    (file : StoryFile) (hfile : file ∈ loaded)
    (hunique : ∀ other ∈ loaded, other.path = file.path → other = file) :
    (loaded.foldl (fun files file => Index.putIn file.path file files) files).lookup file.path =
      some file := by
  induction loaded generalizing files with
  | nil => simp at hfile
  | cons first rest ih =>
    obtain ⟨_, hrest⟩ := List.forall_mem_cons.mp hunique
    rw [List.foldl_cons]
    by_cases hmem : file ∈ rest
    · exact ih _ hmem hrest
    · have hfirst : file = first := (List.mem_cons.mp hfile).resolve_right hmem
      have hne : ∀ other ∈ rest, other.path ≠ file.path := by
        intro other hother hpath
        exact hmem (hrest other hother hpath ▸ hother)
      rw [lookup_putAll_of_forall_ne _ _ _ hne, lookup_putIn, hfirst, if_pos rfl]

lemma entry?_merge_of_mem (index : Index) (loaded : List StoryFile) (timestamp : String)
    (file : StoryFile) (hfile : file ∈ loaded)
    (hunique : ∀ other ∈ loaded, other.path = file.path → other = file) :
    Index.entry? (index.merge loaded timestamp) file.path = some file :=
  lookup_putAll_of_mem loaded _ file hfile hunique

lemma entry?_merge_of_forall_ne (index : Index) (loaded : List StoryFile) (timestamp : String)
    (k : Path) (h : ∀ file ∈ loaded, file.path ≠ k) :
    Index.entry? (index.merge loaded timestamp) k =
      if k ∈ index.built then none else index.entry? k := by
  have hpaths : k ∉ loaded.map StoryFile.path := by
    intro hmem
    obtain ⟨file, hfile, hpath⟩ := List.mem_map.mp hmem
    exact h file hfile hpath
  have hkept := lookup_filter_key (fun key =>
    !index.built.contains key || (loaded.map StoryFile.path).contains key) index.files k
  refine (lookup_putAll_of_forall_ne loaded _ k h).trans (hkept.trans ?_)
  by_cases hbuilt : k ∈ index.built
  · simp [hbuilt, hpaths]
  · simp [hbuilt, Index.entry?]

/-! ### What a build reads -/

/-- A NUL character in the text of a path keeps it from the operating system. -/
def hasNul (p : Path) : Bool :=
  p.render.toList.contains (Char.ofNat 0)

lemma locate_of_hasNul (disk : Disk) (wanted : Wanted) (p : Path) (h : hasNul p = true) :
    disk.locate wanted p = .error .nulInPath :=
  if_pos h

lemma locate_of_not_hasNul (disk : Disk) (wanted : Wanted) (p : Path) (h : hasNul p = false) :
    (∃ spot, disk.locate wanted p = .ok spot) ∨ ∃ e, disk.locate wanted p = .error (.os e) := by
  have hnul : ¬p.render.toList.contains (Char.ofNat 0) = true := by
    simpa [hasNul] using h
  unfold Disk.locate
  simp only [if_neg hnul]
  split_ifs
  · exact Or.inr ⟨_, rfl⟩
  all_goals
    split
    · exact Or.inl ⟨_, rfl⟩
    · exact Or.inr ⟨_, rfl⟩

lemma readStory_of_hasNul (disk : Disk) (maxBytes : Int) (p : Path) (h : hasNul p = true) :
    disk.readStory maxBytes p = .error .nulInPath := by
  simp [Disk.readStory, Disk.readBytes, Disk.nodeAt, locate_of_hasNul disk .target p h]

lemma readStory_of_not_hasNul (disk : Disk) (maxBytes : Int) (p : Path) (h : hasNul p = false) :
    ∃ outcome, disk.readStory maxBytes p = .ok outcome := by
  unfold Disk.readStory Disk.readBytes Disk.nodeAt
  rcases locate_of_not_hasNul disk .target p h with ⟨⟨place, node⟩, hlocate⟩ | ⟨e, hlocate⟩
  · rw [hlocate]
    rcases node with _ | ⟨content⟩ | target | entries <;> exact ⟨_, rfl⟩
  · rw [hlocate]
    exact ⟨_, rfl⟩

/-- A build gathers the files that can be read, each at its own path. -/
lemma gather_of_forall_not_hasNul (disk : Disk) (maxBytes : Int) (paths : List Path)
    (h : ∀ p ∈ paths, hasNul p = false) :
    ∃ harvest, Harvest.gather disk maxBytes paths = .ok harvest ∧
      ∀ file, file ∈ harvest.loaded ↔ ∃ p ∈ paths, ∃ text,
        disk.readStory maxBytes p = .ok (.ok text) ∧ file = StoryFile.read p text := by
  induction paths with
  | nil => exact ⟨_, rfl, by simp⟩
  | cons p paths ih =>
    obtain ⟨hp, hpaths⟩ := List.forall_mem_cons.mp h
    obtain ⟨outcome, hread⟩ := readStory_of_not_hasNul disk maxBytes p hp
    obtain ⟨harvest, hgather, hloaded⟩ := ih hpaths
    refine ⟨harvest.cons p outcome, by simp [Harvest.gather, hread, hgather], ?_⟩
    intro file
    rw [List.exists_mem_cons_iff]
    cases outcome with
    | error failure => simp [Harvest.cons, hread, hloaded]
    | ok text => simp [Harvest.cons, hread, hloaded]

lemma gather_of_exists_hasNul (disk : Disk) (maxBytes : Int) (paths : List Path)
    (h : ∃ p ∈ paths, hasNul p = true) :
    Harvest.gather disk maxBytes paths = .error .nulInPath := by
  induction paths with
  | nil => simp at h
  | cons p paths ih =>
    by_cases hp : hasNul p = true
    · simp [Harvest.gather, readStory_of_hasNul disk maxBytes p hp]
    · have hrest : ∃ q ∈ paths, hasNul q = true := by
        obtain ⟨q, hq, hnul⟩ := h
        rcases List.mem_cons.mp hq with rfl | hmem
        · exact absurd hnul hp
        · exact ⟨q, hmem, hnul⟩
      obtain ⟨outcome, hread⟩ := readStory_of_not_hasNul disk maxBytes p (by simpa using hp)
      simp [Harvest.gather, hread, ih hrest]

/-- A build that takes place: the disk it sees, its size limit and the canonical paths it asks
for. -/
structure Plan where
  disk : Disk
  maxBytes : Int
  keys : List Path

/-- The plan to build from a list of paths. There is none if a path has a NUL character. -/
def Plan.ofPaths? (base : Path) (disk : Disk) (maxBytes : Int) (paths : List Path) : Option Plan :=
  if (paths.map (Path.canonical base)).any hasNul then none
  else some ⟨disk, maxBytes, paths.map (Path.canonical base)⟩

/-- The build that a step is, if it is one and takes place. -/
def Step.plan? (base : Path) : Step → Option Plan
  | .build disk maxBytes paths _ _ => Plan.ofPaths? base disk maxBytes paths
  | .buildProject disk maxBytes filter projectRoot _ _ =>
    match discover disk filter projectRoot with
    | .ok found => Plan.ofPaths? base disk maxBytes found.paths
    | .error _ => none
  | _ => none

/-- The file at `k` can be read from the disk that a plan sees, as `text`. -/
def Plan.Reads (plan : Plan) (k : Path) (text : String) : Prop :=
  k ∈ plan.keys ∧ plan.disk.readStory plan.maxBytes k = .ok (.ok text)

lemma plan_reads_unique {plan : Plan} {k : Path} {text other : String} (h : plan.Reads k text)
    (hother : plan.Reads k other) : text = other := by
  have heq := h.2.symm.trans hother.2
  simpa using heq

lemma build_of_plan (index : Index) (disk : Disk) (maxBytes : Int) (paths : List Path)
    (timestamp : String) (durationMs : Nat) (plan : Plan)
    (h : Plan.ofPaths? index.base disk maxBytes paths = some plan) :
    ∃ result loaded, index.build disk maxBytes paths timestamp durationMs = .ok result ∧
      result.1 = index.merge loaded timestamp ∧
      ∀ file, file ∈ loaded ↔ ∃ k text, plan.Reads k text ∧ file = StoryFile.read k text := by
  unfold Plan.ofPaths? at h
  split_ifs at h with hnul
  obtain rfl := Option.some.inj h
  have hkeys : ∀ p ∈ index.keys paths, hasNul p = false := by
    intro p hp
    have hmem : p ∈ paths.map index.key := List.mem_eraseDups.mp hp
    by_contra hbad
    exact hnul (List.any_eq_true.mpr ⟨p, hmem, by simpa using hbad⟩)
  obtain ⟨harvest, hgather, hloaded⟩ := gather_of_forall_not_hasNul disk maxBytes _ hkeys
  refine ⟨(index.merge harvest.loaded timestamp, harvest.report timestamp durationMs,
    harvest.failureEvents ++ [harvest.buildEvent durationMs]), harvest.loaded, ?_, rfl, ?_⟩
  · simp only [Index.build, Index.gather, hgather]
  · intro file
    rw [hloaded file]
    constructor
    · rintro ⟨p, hp, text, hread, hfile⟩
      exact ⟨p, text, ⟨List.mem_eraseDups.mp hp, hread⟩, hfile⟩
    · rintro ⟨p, text, ⟨hp, hread⟩, hfile⟩
      exact ⟨p, List.mem_eraseDups.mpr hp, text, hread, hfile⟩

lemma build_of_no_plan (index : Index) (disk : Disk) (maxBytes : Int) (paths : List Path)
    (timestamp : String) (durationMs : Nat)
    (h : Plan.ofPaths? index.base disk maxBytes paths = none) :
    index.build disk maxBytes paths timestamp durationMs = .error .nulInPath := by
  unfold Plan.ofPaths? at h
  split_ifs at h with hnul
  obtain ⟨p, hp, hbad⟩ := List.any_eq_true.mp hnul
  have hkeys : ∃ p ∈ index.keys paths, hasNul p = true := ⟨p, List.mem_eraseDups.mpr hp, hbad⟩
  simp only [Index.build, Index.gather, gather_of_exists_hasNul disk maxBytes _ hkeys]

/-- A build that takes place merges the files that it can read. -/
theorem apply_of_plan (index : Index) (step : Step) (plan : Plan)
    (h : step.plan? index.base = some plan) :
    ∃ loaded timestamp, step.apply index = index.merge loaded timestamp ∧
      ∀ file, file ∈ loaded ↔ ∃ k text, plan.Reads k text ∧ file = StoryFile.read k text := by
  cases step with
  | update p text => cases h
  | remove p => cases h
  | build disk maxBytes paths timestamp durationMs =>
    obtain ⟨result, loaded, hbuild, hresult, hloaded⟩ :=
      build_of_plan index disk maxBytes paths timestamp durationMs plan h
    exact ⟨loaded, timestamp, by simp only [Step.apply, hbuild, hresult], hloaded⟩
  | buildProject disk maxBytes filter projectRoot timestamp durationMs =>
    unfold Step.plan? at h
    cases hfound : discover disk filter projectRoot with
    | error e => simp [hfound] at h
    | ok found =>
      simp only [hfound] at h
      obtain ⟨result, loaded, hbuild, hresult, hloaded⟩ :=
        build_of_plan index disk maxBytes found.paths timestamp durationMs plan h
      refine ⟨loaded, timestamp, ?_, hloaded⟩
      simp only [Step.apply, Index.buildProject, hfound, hbuild, hresult]

/-- Any other step is an update or a removal, or it changes nothing. -/
theorem apply_of_no_plan (index : Index) (step : Step) (h : step.plan? index.base = none) :
    (∃ p text, step = .update p text) ∨ (∃ p, step = .remove p) ∨ step.apply index = index := by
  cases step with
  | update p text => exact Or.inl ⟨p, text, rfl⟩
  | remove p => exact Or.inr (Or.inl ⟨p, rfl⟩)
  | build disk maxBytes paths timestamp durationMs =>
    have hbuild := build_of_no_plan index disk maxBytes paths timestamp durationMs h
    exact Or.inr (Or.inr (by simp only [Step.apply, hbuild]))
  | buildProject disk maxBytes filter projectRoot timestamp durationMs =>
    refine Or.inr (Or.inr ?_)
    unfold Step.plan? at h
    cases hfound : discover disk filter projectRoot with
    | error e => simp only [Step.apply, Index.buildProject, hfound]
    | ok found =>
      simp only [hfound] at h
      have hbuild := build_of_no_plan index disk maxBytes found.paths timestamp durationMs h
      simp only [Step.apply, Index.buildProject, hfound, hbuild]

lemma base_remove (index : Index) (p : Path) : (index.remove p).1.base = index.base := by
  unfold Index.remove
  dsimp only
  split_ifs <;> rfl

lemma built_remove (index : Index) (p : Path) : (index.remove p).1.built = index.built := by
  unfold Index.remove
  dsimp only
  split_ifs <;> rfl

lemma base_apply (index : Index) (step : Step) : (step.apply index).base = index.base := by
  cases hplan : step.plan? index.base with
  | some plan =>
    obtain ⟨loaded, timestamp, happly, _⟩ := apply_of_plan index step plan hplan
    rw [happly]
    rfl
  | none =>
    rcases apply_of_no_plan index step hplan with ⟨p, text, rfl⟩ | ⟨p, rfl⟩ | hsame
    · rfl
    · exact base_remove index p
    · rw [hsame]

lemma base_run (base : Path) (steps : List Step) : (run base steps).base = base := by
  induction steps using List.reverseRecOn with
  | nil => rfl
  | append_singleton steps step ih => rw [run_append_singleton, base_apply, ih]

end StoryAtlas.Proofs
