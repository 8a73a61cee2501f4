import StoryAtlas.Proofs.IndexRuns

/-!
# The entry of a path by its history

What an index holds at a path after any run is told by the steps of the run alone: the text of an
editor stays until the path is updated again, removed, loaded by a build or forgotten by one, and a
build forgets what the build before it had loaded and it does not load again.
-/

namespace StoryAtlas.Proofs
open StoryAtlas.Disk StoryAtlas.Story

/-- The step takes in an editor's text for the file at `k`. -/
def Updates (base : Path) (step : Step) (k : Path) (text : String) : Prop :=
  ∃ p, step = .update p text ∧ Path.canonical base p = k

/-- The step removes the file at `k`. -/
def Removes (base : Path) (step : Step) (k : Path) : Prop :=
  ∃ p, step = .remove p ∧ Path.canonical base p = k

/-- The step is a build that takes place. -/
def Builds (base : Path) (step : Step) : Prop :=
  ∃ plan, step.plan? base = some plan

/-- The step is a build that loads the file at `k` from disk. -/
def Loads (base : Path) (step : Step) (k : Path) (text : String) : Prop :=
  ∃ plan, step.plan? base = some plan ∧ plan.Reads k text

/-- The step neither updates nor removes the file at `k`. -/
def Untouched (base : Path) (k : Path) (step : Step) : Prop :=
  (∀ text, ¬Updates base step k text) ∧ ¬Removes base step k

lemma builds_of_loads {base : Path} {step : Step} {k : Path} {text : String}
    (h : Loads base step k text) : Builds base step := by
  obtain ⟨plan, hplan, _⟩ := h
  exact ⟨plan, hplan⟩

lemma not_builds_of_updates {base : Path} {step : Step} {k : Path} {text : String}
    (h : Updates base step k text) : ¬Builds base step := by
  obtain ⟨p, rfl, _⟩ := h
  rintro ⟨plan, hplan⟩
  cases hplan

lemma not_builds_of_removes {base : Path} {step : Step} {k : Path} (h : Removes base step k) :
    ¬Builds base step := by
  obtain ⟨p, rfl, _⟩ := h
  rintro ⟨plan, hplan⟩
  cases hplan

lemma plan?_of_not_builds {base : Path} {step : Step} (h : ¬Builds base step) :
    step.plan? base = none := by
  cases hplan : step.plan? base with
  | none => rfl
  | some plan => exact absurd ⟨plan, hplan⟩ h

/-- A build from a list of paths takes place unless one of them has a NUL character. -/
lemma builds_build_iff (base : Path) (disk : Disk) (maxBytes : Int) (paths : List Path)
    (timestamp : String) (durationMs : Nat) :
    Builds base (.build disk maxBytes paths timestamp durationMs) ↔
      ∀ p ∈ paths, hasNul (Path.canonical base p) = false := by
  simp only [Builds, Step.plan?, Plan.ofPaths?]
  split_ifs with hnul
  · obtain ⟨k, hk, hbad⟩ := List.any_eq_true.mp hnul
    obtain ⟨p, hp, rfl⟩ := List.mem_map.mp hk
    simp only [exists_false, false_iff]
    intro hpaths
    exact absurd hbad (by simp [hpaths p hp])
  · simpa using hnul

/-! ### One step -/

section OneStep

variable {index : Index} {step : Step} {k : Path} {text : String}

lemma entry?_apply_of_updates (h : Updates index.base step k text) :
    Index.entry? (step.apply index) k = some (StoryFile.read k text) := by
  obtain ⟨p, rfl, rfl⟩ := h
  exact (entry?_update index p _ text).trans (if_pos rfl)

lemma entry?_apply_of_removes (h : Removes index.base step k) :
    Index.entry? (step.apply index) k = none := by
  obtain ⟨p, rfl, rfl⟩ := h
  exact (entry?_remove index p _).trans (if_pos rfl)

lemma entry?_apply_of_loads (h : Loads index.base step k text) :
    Index.entry? (step.apply index) k = some (StoryFile.read k text) := by
  obtain ⟨plan, hplan, hreads⟩ := h
  obtain ⟨loaded, timestamp, happly, hloaded⟩ := apply_of_plan index step plan hplan
  rw [happly]
  apply entry?_merge_of_mem index loaded timestamp (StoryFile.read k text)
  · exact (hloaded _).mpr ⟨k, text, hreads, rfl⟩
  · intro other hother hpath
    obtain ⟨k', text', hreads', rfl⟩ := (hloaded other).mp hother
    obtain rfl : k' = k := hpath
    rw [plan_reads_unique hreads' hreads]

lemma entry?_apply_of_builds (h : Builds index.base step)
    (hloads : ∀ text, ¬Loads index.base step k text) :
    Index.entry? (step.apply index) k = if k ∈ index.built then none else index.entry? k := by
  obtain ⟨plan, hplan⟩ := h
  obtain ⟨loaded, timestamp, happly, hloaded⟩ := apply_of_plan index step plan hplan
  rw [happly]
  apply entry?_merge_of_forall_ne
  intro file hfile hpath
  obtain ⟨k', text, hreads, rfl⟩ := (hloaded file).mp hfile
  obtain rfl : k' = k := hpath
  exact hloads text ⟨plan, hplan, hreads⟩

lemma entry?_apply_of_not_builds (h : ¬Builds index.base step)
    (huntouched : Untouched index.base k step) :
    Index.entry? (step.apply index) k = index.entry? k := by
  rcases apply_of_no_plan index step (plan?_of_not_builds h) with ⟨p, text, rfl⟩ | ⟨p, rfl⟩ | hsame
  · have hne : k ≠ index.key p := fun hk => huntouched.1 text ⟨p, rfl, hk.symm⟩
    exact (entry?_update index p k text).trans (if_neg hne)
  · have hne : k ≠ index.key p := fun hk => huntouched.2 ⟨p, rfl, hk.symm⟩
    exact (entry?_remove index p k).trans (if_neg hne)
  · rw [hsame]

lemma mem_built_apply_of_builds (h : Builds index.base step) :
    k ∈ (step.apply index).built ↔ ∃ text, Loads index.base step k text := by
  obtain ⟨plan, hplan⟩ := h
  obtain ⟨loaded, timestamp, happly, hloaded⟩ := apply_of_plan index step plan hplan
  rw [happly]
  constructor
  · intro hmem
    obtain ⟨file, hfile, hpath⟩ := List.mem_map.mp hmem
    obtain ⟨k', text, hreads, rfl⟩ := (hloaded file).mp hfile
    obtain rfl : k' = k := hpath
    exact ⟨text, plan, hplan, hreads⟩
  · rintro ⟨text, plan', hplan', hreads⟩
    obtain rfl : plan = plan' := Option.some.inj (hplan.symm.trans hplan')
    exact List.mem_map.mpr ⟨_, (hloaded _).mpr ⟨k, text, hreads, rfl⟩, rfl⟩

lemma built_apply_of_not_builds (h : ¬Builds index.base step) :
    (step.apply index).built = index.built := by
  rcases apply_of_no_plan index step (plan?_of_not_builds h) with ⟨p, text, rfl⟩ | ⟨p, rfl⟩ | hsame
  · rfl
  · exact built_remove index p
  · rw [hsame]

end OneStep

/-! ### Histories -/

/-- Some step of a run satisfies `P`, and every later one satisfies `Q`. -/
def Since {α : Type} (P Q : α → Prop) (steps : List α) : Prop :=
  ∃ before step after, steps = before ++ step :: after ∧ P step ∧ ∀ later ∈ after, Q later

/-- The most recent build of a run has loaded the file at `k`. -/
def LastBuildLoaded (base : Path) (steps : List Step) (k : Path) : Prop :=
  Since (fun build => ∃ text, Loads base build k text) (fun later => ¬Builds base later) steps

/-- The last update of `k` in a run brought in `text`. It has not been removed since, and no later
build has loaded `k` or followed directly on a build that had. -/
def Buffered (base : Path) (steps : List Step) (k : Path) (text : String) : Prop :=
  ∃ before step after, steps = before ++ step :: after ∧ Updates base step k text ∧
    (∀ later ∈ after, Untouched base k later) ∧
    ∀ between build rest, after = between ++ build :: rest → Builds base build →
      (∀ other, ¬Loads base build k other) ∧
        ¬LastBuildLoaded base (before ++ step :: between) k

/-- The most recent build of a run has loaded `text` for `k`, and `k` has been neither updated nor
removed since. -/
def OnDisk (base : Path) (steps : List Step) (k : Path) (text : String) : Prop :=
  Since (fun build => Loads base build k text)
    (fun later => ¬Builds base later ∧ Untouched base k later) steps

lemma exists_split_append_singleton {α : Type} (xs : List α) (y : α)
    (P : List α → α → List α → Prop) :
    (∃ before x after, xs ++ [y] = before ++ x :: after ∧ P before x after) ↔
      P xs y [] ∨ ∃ before x after, xs = before ++ x :: after ∧ P before x (after ++ [y]) := by
  constructor
  · rintro ⟨before, x, after, heq, hP⟩
    rcases List.eq_nil_or_concat after with rfl | ⟨after, z, rfl⟩
    · obtain ⟨rfl, hyx⟩ := List.append_inj' heq rfl
      obtain rfl : y = x := by simpa using hyx
      exact Or.inl hP
    · have heq' : xs ++ [y] = (before ++ x :: after) ++ [z] := by simpa using heq
      obtain ⟨rfl, hyz⟩ := List.append_inj' heq' rfl
      obtain rfl : y = z := by simpa using hyz
      exact Or.inr ⟨before, x, after, rfl, by simpa using hP⟩
  · rintro (hP | ⟨before, x, after, rfl, hP⟩)
    · exact ⟨xs, y, [], rfl, hP⟩
    · exact ⟨before, x, after ++ [y], by simp, hP⟩

lemma forall_split_append_singleton {α : Type} (xs : List α) (y : α) (P : List α → α → Prop) :
    (∀ before x after, xs ++ [y] = before ++ x :: after → P before x) ↔
      P xs y ∧ ∀ before x after, xs = before ++ x :: after → P before x := by
  have hexists := exists_split_append_singleton xs y (fun before x _ => ¬P before x)
  constructor
  · intro h
    refine ⟨h xs y [] rfl, ?_⟩
    intro before x after heq
    exact h before x (after ++ [y]) (by simp [heq])
  · rintro ⟨hlast, hrest⟩ before x after heq
    by_contra hP
    rcases hexists.mp ⟨before, x, after, heq, hP⟩ with hbad | ⟨before, x, after, heq, hbad⟩
    · exact hbad hlast
    · exact hbad (hrest before x after heq)

lemma since_append_singleton {α : Type} (P Q : α → Prop) (steps : List α) (step : α) :
    Since P Q (steps ++ [step]) ↔ P step ∨ Since P Q steps ∧ Q step := by
  unfold Since
  rw [exists_split_append_singleton steps step (fun _ x after => P x ∧ ∀ later ∈ after, Q later)]
  constructor
  · rintro (⟨hP, _⟩ | ⟨before, x, after, heq, hP, hafter⟩)
    · exact Or.inl hP
    · obtain ⟨hafter, hstep⟩ := List.forall_mem_append.mp hafter
      exact Or.inr ⟨⟨before, x, after, heq, hP, hafter⟩, hstep step (by simp)⟩
  · rintro (hP | ⟨⟨before, x, after, heq, hP, hafter⟩, hstep⟩)
    · exact Or.inl ⟨hP, by simp⟩
    · refine Or.inr ⟨before, x, after, heq, hP, ?_⟩
      exact List.forall_mem_append.mpr ⟨hafter, by simpa using hstep⟩

section Histories

variable (base : Path) (steps : List Step) (step : Step) (k : Path) (text : String)

lemma lastBuildLoaded_append_singleton :
    LastBuildLoaded base (steps ++ [step]) k ↔
      (∃ text, Loads base step k text) ∨ LastBuildLoaded base steps k ∧ ¬Builds base step :=
  since_append_singleton _ _ steps step

lemma onDisk_append_singleton :
    OnDisk base (steps ++ [step]) k text ↔
      Loads base step k text ∨
        OnDisk base steps k text ∧ ¬Builds base step ∧ Untouched base k step :=
  since_append_singleton _ _ steps step

lemma buffered_append_singleton :
    Buffered base (steps ++ [step]) k text ↔
      Updates base step k text ∨ Buffered base steps k text ∧ Untouched base k step ∧
        (Builds base step → (∀ other, ¬Loads base step k other) ∧
          ¬LastBuildLoaded base steps k) := by
  unfold Buffered
  rw [exists_split_append_singleton steps step (fun before update after =>
    Updates base update k text ∧ (∀ later ∈ after, Untouched base k later) ∧
    ∀ between build rest, after = between ++ build :: rest → Builds base build →
      (∀ other, ¬Loads base build k other) ∧
        ¬LastBuildLoaded base (before ++ update :: between) k)]
  constructor
  · rintro (⟨hupdate, _⟩ | ⟨before, update, after, rfl, hupdate, hafter, hbuilds⟩)
    · exact Or.inl hupdate
    · obtain ⟨hafter, hstep⟩ := List.forall_mem_append.mp hafter
      obtain ⟨hlast, hbuilds⟩ := (forall_split_append_singleton after step (fun between build =>
        Builds base build → (∀ other, ¬Loads base build k other) ∧
          ¬LastBuildLoaded base (before ++ update :: between) k)).mp hbuilds
      exact Or.inr ⟨⟨before, update, after, rfl, hupdate, hafter, hbuilds⟩,
        hstep step (by simp), hlast⟩
  · rintro (hupdate | ⟨⟨before, update, after, rfl, hupdate, hafter, hbuilds⟩, hstep, hlast⟩)
    · exact Or.inl ⟨hupdate, by simp, by simp⟩
    · refine Or.inr ⟨before, update, after, rfl, hupdate, ?_, ?_⟩
      · exact List.forall_mem_append.mpr ⟨hafter, by simpa using hstep⟩
      · exact (forall_split_append_singleton after step (fun between build =>
          Builds base build → (∀ other, ¬Loads base build k other) ∧
            ¬LastBuildLoaded base (before ++ update :: between) k)).mpr ⟨hlast, hbuilds⟩

lemma lastBuildLoaded_of_onDisk (h : OnDisk base steps k text) : LastBuildLoaded base steps k := by
  obtain ⟨before, build, after, heq, hloads, hafter⟩ := h
  exact ⟨before, build, after, heq, ⟨text, hloads⟩, fun later hlater => (hafter later hlater).1⟩

/-- The text of an editor and a text from disk are never held at once. -/
lemma not_onDisk_of_buffered (other : String) (h : Buffered base steps k text) :
    ¬OnDisk base steps k other := by
  induction steps using List.reverseRecOn with
  | nil =>
    obtain ⟨before, step, after, heq, _⟩ := h
    simp at heq
  | append_singleton steps step ih =>
    rw [buffered_append_singleton] at h
    rw [onDisk_append_singleton]
    rintro (hloads | ⟨hdisk, hbuilds, huntouched⟩)
    · rcases h with hupdate | ⟨_, _, hbuild⟩
      · exact not_builds_of_updates hupdate (builds_of_loads hloads)
      · exact (hbuild (builds_of_loads hloads)).1 other hloads
    · rcases h with hupdate | ⟨hbuffered, _, _⟩
      · exact huntouched.1 text hupdate
      · exact ih hbuffered hdisk

end Histories

/-- The paths that an index takes for built are those that its most recent build has loaded. -/
theorem mem_built_run (base : Path) (steps : List Step) (k : Path) :
    k ∈ (run base steps).built ↔ LastBuildLoaded base steps k := by
  induction steps using List.reverseRecOn with
  | nil => simp [run, Index.empty, LastBuildLoaded, Since]
  | append_singleton steps step ih =>
    rw [run_append_singleton, lastBuildLoaded_append_singleton]
    have hbase := base_run base steps
    by_cases hbuilds : Builds base step
    · rw [mem_built_apply_of_builds (by rwa [hbase]), hbase]
      simp [hbuilds]
    · have hloads : ¬∃ text, Loads base step k text := by
        rintro ⟨text, h⟩
        exact hbuilds (builds_of_loads h)
      rw [built_apply_of_not_builds (by rwa [hbase]), ih]
      simp [hbuilds, hloads]

lemma entry?_run_of_buffered (base : Path) (steps : List Step) (k : Path) (text : String)
    (h : Buffered base steps k text) :
    Index.entry? (run base steps) k = some (StoryFile.read k text) := by
  induction steps using List.reverseRecOn with
  | nil =>
    obtain ⟨before, step, after, heq, _⟩ := h
    simp at heq
  | append_singleton steps step ih =>
    have hbase := base_run base steps
    rw [run_append_singleton]
    rcases (buffered_append_singleton base steps step k text).mp h with
      hupdate | ⟨hbuffered, huntouched, hbuild⟩
    · exact entry?_apply_of_updates (by rwa [hbase])
    · by_cases hbuilds : Builds base step
      · obtain ⟨hloads, hlast⟩ := hbuild hbuilds
        rw [entry?_apply_of_builds (by rwa [hbase]) (by rwa [hbase]),
          if_neg (fun hmem => hlast ((mem_built_run base steps k).mp hmem))]
        exact ih hbuffered
      · rw [entry?_apply_of_not_builds (by rwa [hbase]) (by rwa [hbase])]
        exact ih hbuffered

lemma entry?_run_of_onDisk (base : Path) (steps : List Step) (k : Path) (text : String)
    (h : OnDisk base steps k text) :
    Index.entry? (run base steps) k = some (StoryFile.read k text) := by
  induction steps using List.reverseRecOn with
  | nil =>
    obtain ⟨before, step, after, heq, _⟩ := h
    simp at heq
  | append_singleton steps step ih =>
    have hbase := base_run base steps
    rw [run_append_singleton]
    rcases (onDisk_append_singleton base steps step k text).mp h with
      hloads | ⟨hdisk, hbuilds, huntouched⟩
    · exact entry?_apply_of_loads (by rwa [hbase])
    · rw [entry?_apply_of_not_builds (by rwa [hbase]) (by rwa [hbase])]
      exact ih hdisk

/-- An index holds nothing but what its history accounts for. -/
lemma exists_of_entry?_run (base : Path) (steps : List Step) (k : Path) (file : StoryFile)
    (h : Index.entry? (run base steps) k = some file) :
    ∃ text, file = StoryFile.read k text ∧
      (Buffered base steps k text ∨ OnDisk base steps k text) := by
  induction steps using List.reverseRecOn with
  | nil => cases h
  | append_singleton steps step ih =>
    have hbase := base_run base steps
    rw [run_append_singleton] at h
    simp only [buffered_append_singleton, onDisk_append_singleton]
    by_cases huntouched : Untouched base k step
    · by_cases hbuilds : Builds base step
      · by_cases hloads : ∃ text, Loads base step k text
        · obtain ⟨text, hload⟩ := hloads
          rw [entry?_apply_of_loads (by rwa [hbase])] at h
          exact ⟨text, (Option.some.inj h).symm, Or.inr (Or.inl hload)⟩
        · have hnone : ∀ text, ¬Loads base step k text := fun text hload => hloads ⟨text, hload⟩
          rw [entry?_apply_of_builds (by rwa [hbase]) (by rwa [hbase])] at h
          split_ifs at h with hbuilt
          have hlast : ¬LastBuildLoaded base steps k :=
            fun hlast => hbuilt ((mem_built_run base steps k).mpr hlast)
          obtain ⟨text, hfile, hheld⟩ := ih h
          rcases hheld with hbuffered | hdisk
          · exact ⟨text, hfile, Or.inl (Or.inr ⟨hbuffered, huntouched, fun _ => ⟨hnone, hlast⟩⟩)⟩
          · exact absurd (lastBuildLoaded_of_onDisk base steps k text hdisk) hlast
      · rw [entry?_apply_of_not_builds (by rwa [hbase]) (by rwa [hbase])] at h
        obtain ⟨text, hfile, hheld⟩ := ih h
        rcases hheld with hbuffered | hdisk
        · exact ⟨text, hfile, Or.inl (Or.inr ⟨hbuffered, huntouched, fun hb => absurd hb hbuilds⟩)⟩
        · exact ⟨text, hfile, Or.inr (Or.inr ⟨hdisk, hbuilds, huntouched⟩)⟩
    · by_cases hupdates : ∃ text, Updates base step k text
      · obtain ⟨text, hupdate⟩ := hupdates
        rw [entry?_apply_of_updates (by rwa [hbase])] at h
        exact ⟨text, (Option.some.inj h).symm, Or.inl (Or.inl hupdate)⟩
      · have hremoves : Removes base step k := by
          by_contra hremoves
          exact huntouched ⟨fun text hupdate => hupdates ⟨text, hupdate⟩, hremoves⟩
        rw [entry?_apply_of_removes (by rwa [hbase])] at h
        cases h

/-- After any run the entry of a path is told by the history of the path. It is what the last update
brought in, as long as nothing has come after that, or what the most recent build has loaded, or
nothing; never both of the first two. A build that loads a path neither itself nor in the build
before it keeps an editor's text there. A build that fails, for a NUL character in a path, might as
well not have been tried. -/
theorem entry_determined_by_history (base : Path) (steps : List Step) (k : Path) :
    (∀ file, Index.entry? (run base steps) k = some file ↔
      ∃ text, file = StoryFile.read k text ∧
        (Buffered base steps k text ∨ OnDisk base steps k text)) ∧
    (∀ text other, Buffered base steps k text → ¬OnDisk base steps k other) ∧
    (∀ text build, Buffered base steps k text → Builds base build →
      (∀ other, ¬Loads base build k other) → ¬LastBuildLoaded base steps k →
        Index.entry? (run base (steps ++ [build])) k = some (StoryFile.read k text)) ∧
    (∀ disk maxBytes paths timestamp durationMs,
      (Builds base (.build disk maxBytes paths timestamp durationMs) ↔
        ∀ p ∈ paths, hasNul (Path.canonical base p) = false) ∧
      (¬Builds base (.build disk maxBytes paths timestamp durationMs) →
        (run base steps).build disk maxBytes paths timestamp durationMs = .error .nulInPath ∧
          ∀ more, run base (steps ++ .build disk maxBytes paths timestamp durationMs :: more) =
            run base (steps ++ more))) := by
  refine ⟨?_, ?_, ?_, ?_⟩
  · intro file
    constructor
    · exact exists_of_entry?_run base steps k file
    · rintro ⟨text, rfl, hbuffered | hdisk⟩
      · exact entry?_run_of_buffered base steps k text hbuffered
      · exact entry?_run_of_onDisk base steps k text hdisk
  · intro text other
    exact not_onDisk_of_buffered base steps k text other
  · intro text build hbuffered hbuilds hloads hlast
    have huntouched : Untouched base k build :=
      ⟨fun other hupdate => not_builds_of_updates hupdate hbuilds,
        fun hremove => not_builds_of_removes hremove hbuilds⟩
    apply entry?_run_of_buffered
    rw [buffered_append_singleton]
    exact Or.inr ⟨hbuffered, huntouched, fun _ => ⟨hloads, hlast⟩⟩
  · intro disk maxBytes paths timestamp durationMs
    refine ⟨builds_build_iff base disk maxBytes paths timestamp durationMs, ?_⟩
    intro hbuilds
    have hbuild : (run base steps).build disk maxBytes paths timestamp durationMs =
        .error .nulInPath := by
      apply build_of_no_plan
      rw [base_run]
      exact plan?_of_not_builds hbuilds
    refine ⟨hbuild, ?_⟩
    intro more
    have happly : Step.apply (run base steps) (.build disk maxBytes paths timestamp durationMs) =
        run base steps := by
      simp only [Step.apply, hbuild]
    simp only [run, List.foldl_append, List.foldl_cons] at happly ⊢
    rw [happly]

end StoryAtlas.Proofs
