import Mathlib.Data.List.Nodup
import StoryAtlas.Proofs.CanonicalTexts
import StoryAtlas.Proofs.DiskNames
import StoryAtlas.Proofs.IndexHistory

/-!
# Canonical keys

Every entry of an index that a run has made comes from an update or from a build, and both file a
story under the canonical form of its path. So the key of an entry is the path of its file and its
own canonical form, and the files that a story includes are canonical as well, next to the story.
-/

namespace StoryAtlas.Proofs
open StoryAtlas.Disk StoryAtlas.Story

/-! ### Includes -/

lemma nodup_eraseDups {α : Type} [BEq α] [LawfulBEq α] (xs : List α) : xs.eraseDups.Nodup := by
  induction hn : xs.length using Nat.strongRecOn generalizing xs with
  | ind n ih =>
    cases xs with
    | nil => simp
    | cons x xs =>
      have hshort : (xs.filter fun y => !y == x).length < n := by
        have hle := List.length_filter_le (fun y => !y == x) xs
        simp only [List.length_cons] at hn
        omega
      rw [List.eraseDups_cons, List.nodup_cons]
      refine ⟨?_, ih _ hshort _ rfl⟩
      rw [List.mem_eraseDups, List.mem_filter]
      simp

lemma isName_of_include? (line : List Char) (name : String) (h : include? line = some name) :
    IsName name ∧ name ≠ ".." := by
  obtain ⟨stem, rfl, _, _, _, _, _, _, hstem, _⟩ := (include?_eq_some_iff line name).mp h
  exact isName_fileName hstem

/-- The files that a story includes lie next to it. -/
lemma mem_includes (k target : Path) (text : String)
    (h : target ∈ (StoryFile.read k text).includes) :
    ∃ name, IsName name ∧ name ≠ ".." ∧ target = k.parent.child name := by
  have hmem := List.mem_eraseDups.mp h
  obtain ⟨name, hname, rfl⟩ := List.mem_map.mp hmem
  obtain ⟨line, _, hinclude⟩ := List.mem_filterMap.mp hname
  obtain ⟨hspelled, hup⟩ := isName_of_include? line name hinclude
  exact ⟨name, hspelled, hup, rfl⟩

lemma nodup_includes (k : Path) (text : String) : (StoryFile.read k text).includes.Nodup :=
  nodup_eraseDups _

/-! ### Where entries come from -/

lemma mem_putIn (key : Path) (file : StoryFile) (files : List (Path × StoryFile))
    (entry : Path × StoryFile) (h : entry ∈ Index.putIn key file files) :
    entry = (key, file) ∨ entry ∈ files := by
  induction files with
  | nil => exact Or.inl (by simpa [Index.putIn] using h)
  | cons first rest ih =>
    unfold Index.putIn at h
    split_ifs at h
    · rcases List.mem_cons.mp h with heq | hmem
      · exact Or.inl heq
      · exact Or.inr (List.mem_cons_of_mem _ hmem)
    · rcases List.mem_cons.mp h with heq | hmem
      · exact Or.inr (List.mem_cons.mpr (Or.inl heq))
      · exact (ih hmem).imp_right (List.mem_cons_of_mem _)

lemma mem_putAll (loaded : List StoryFile) (files : List (Path × StoryFile))
    (entry : Path × StoryFile)
    (h : entry ∈ loaded.foldl (fun files file => Index.putIn file.path file files) files) :
    (∃ file ∈ loaded, entry = (file.path, file)) ∨ entry ∈ files := by
  induction loaded generalizing files with
  | nil => exact Or.inr h
  | cons file rest ih =>
    rcases ih _ h with ⟨other, hother, heq⟩ | hmem
    · exact Or.inl ⟨other, List.mem_cons_of_mem _ hother, heq⟩
    · rcases mem_putIn _ _ _ _ hmem with heq | hold
      · exact Or.inl ⟨file, List.mem_cons_self, heq⟩
      · exact Or.inr hold

lemma mem_files_remove (index : Index) (p : Path) (entry : Path × StoryFile)
    (h : entry ∈ (index.remove p).1.files) : entry ∈ index.files := by
  unfold Index.remove at h
  dsimp only at h
  split_ifs at h
  · exact List.mem_of_mem_filter h
  · exact h

/-- The step brings in the story at `k` with this text, from an editor or from disk. -/
def BringsIn (base : Path) (step : Step) (k : Path) (text : String) : Prop :=
  Updates base step k text ∨ Loads base step k text

/-- An entry after a step was there before, or the step has brought it in. -/
theorem mem_files_apply (index : Index) (step : Step) (k : Path) (file : StoryFile)
    (h : (k, file) ∈ (step.apply index).files) :
    (k, file) ∈ index.files ∨
      ∃ text, file = StoryFile.read k text ∧ BringsIn index.base step k text := by
  cases hplan : step.plan? index.base with
  | some plan =>
    obtain ⟨loaded, timestamp, happly, hloaded⟩ := apply_of_plan index step plan hplan
    rw [happly] at h
    rcases mem_putAll loaded _ _ h with ⟨other, hother, heq⟩ | hkept
    · obtain ⟨rfl, rfl⟩ : k = other.path ∧ file = other := by simpa using heq
      obtain ⟨k', text, hreads, hfile⟩ := (hloaded file).mp hother
      obtain rfl : file.path = k' := by rw [hfile]; rfl
      exact Or.inr ⟨text, hfile, Or.inr ⟨plan, hplan, hreads⟩⟩
    · exact Or.inl (List.mem_of_mem_filter hkept)
  | none =>
    rcases apply_of_no_plan index step hplan with ⟨p, text, rfl⟩ | ⟨p, rfl⟩ | hsame
    · rcases mem_putIn _ _ _ _ h with heq | hold
      · obtain ⟨rfl, rfl⟩ : k = index.key p ∧ file = StoryFile.read (index.key p) text := by
          exact Prod.mk.inj heq
        exact Or.inr ⟨text, rfl, Or.inl ⟨p, rfl, rfl⟩⟩
      · exact Or.inl hold
    · exact Or.inl (mem_files_remove index p _ h)
    · rw [hsame] at h
      exact Or.inl h

/-- Some step of a run has brought in each entry that there is after the run. -/
theorem mem_files_run (base : Path) (steps : List Step) (k : Path) (file : StoryFile)
    (h : (k, file) ∈ (run base steps).files) :
    ∃ step ∈ steps, ∃ text, file = StoryFile.read k text ∧ BringsIn base step k text := by
  induction steps using List.reverseRecOn with
  | nil => cases h
  | append_singleton steps step ih =>
    rw [run_append_singleton] at h
    rcases mem_files_apply _ step k file h with hold | ⟨text, hfile, hbrings⟩
    · obtain ⟨earlier, hearlier, hbrought⟩ := ih hold
      exact ⟨earlier, List.mem_append_left _ hearlier, hbrought⟩
    · rw [base_run] at hbrings
      exact ⟨step, by simp, text, hfile, hbrings⟩

/-! ### Keys -/

/-- The paths that a step is called with can be spelled, and so can those that it meets on disk. -/
def StepSpelled : Step → Prop
  | .update p _ => Spelled p
  | .remove p => Spelled p
  | .build _ _ paths _ _ => ∀ p ∈ paths, Spelled p
  | .buildProject disk _ _ projectRoot _ _ => WellNamed disk ∧ Spelled projectRoot

lemma mem_keys_ofPaths? (base : Path) (disk : Disk) (maxBytes : Int) (paths : List Path)
    (plan : Plan) (k : Path) (h : Plan.ofPaths? base disk maxBytes paths = some plan)
    (hk : k ∈ plan.keys) : ∃ p ∈ paths, Path.canonical base p = k := by
  unfold Plan.ofPaths? at h
  split_ifs at h
  obtain rfl := Option.some.inj h
  exact List.mem_map.mp hk

lemma mem_keys_plan? (base : Path) (step : Step) (plan : Plan) (k : Path)
    (h : step.plan? base = some plan) (hk : k ∈ plan.keys) :
    ∃ p, Path.canonical base p = k ∧ (StepSpelled step → Spelled p) := by
  cases step with
  | update p text => cases h
  | remove p => cases h
  | build disk maxBytes paths timestamp durationMs =>
    obtain ⟨p, hp, hkey⟩ := mem_keys_ofPaths? base disk maxBytes paths plan k h hk
    exact ⟨p, hkey, fun hspelled => hspelled p hp⟩
  | buildProject disk maxBytes filter projectRoot timestamp durationMs =>
    unfold Step.plan? at h
    cases hfound : discover disk filter projectRoot with
    | error e => simp [hfound] at h
    | ok found =>
      simp only [hfound] at h
      obtain ⟨p, hp, hkey⟩ := mem_keys_ofPaths? base disk maxBytes found.paths plan k h hk
      refine ⟨p, hkey, ?_⟩
      rintro ⟨hdisk, hroot⟩
      exact spelled_discover disk filter projectRoot found hdisk hroot hfound p hp

/-- Whatever a step brings in is filed under the canonical form of some path. -/
lemma exists_of_bringsIn (base : Path) (step : Step) (k : Path) (text : String)
    (h : BringsIn base step k text) :
    ∃ p, Path.canonical base p = k ∧ (StepSpelled step → Spelled p) := by
  rcases h with ⟨p, rfl, hkey⟩ | ⟨plan, hplan, hreads⟩
  · exact ⟨p, hkey, fun hspelled => hspelled⟩
  · exact mem_keys_plan? base step plan k hplan hreads.1

lemma isCanonical_of_mem_files (base : Path) (steps : List Step) (k : Path) (file : StoryFile)
    (hbase : base.anchor ≠ .relative) (h : (k, file) ∈ (run base steps).files) : IsCanonical k := by
  obtain ⟨step, _, text, _, hbrings⟩ := mem_files_run base steps k file h
  obtain ⟨p, rfl, _⟩ := exists_of_bringsIn base step k text hbrings
  exact isCanonical_canonical base p hbase

lemma read_of_mem_files (base : Path) (steps : List Step) (k : Path) (file : StoryFile)
    (h : (k, file) ∈ (run base steps).files) : file = StoryFile.read k file.text := by
  obtain ⟨step, _, text, rfl, _⟩ := mem_files_run base steps k file h
  rfl

lemma read_of_entry? (base : Path) (steps : List Step) (k : Path) (file : StoryFile)
    (h : Index.entry? (run base steps) k = some file) : file = StoryFile.read k file.text :=
  read_of_mem_files base steps k file (mem_of_lookup_eq_some _ _ _ h)

lemma spelled_of_mem_files (base : Path) (steps : List Step) (k : Path) (file : StoryFile)
    (hbase : Spelled base) (hsteps : ∀ step ∈ steps, StepSpelled step)
    (h : (k, file) ∈ (run base steps).files) : Spelled k := by
  obtain ⟨step, hstep, text, _, hbrings⟩ := mem_files_run base steps k file h
  obtain ⟨p, rfl, hp⟩ := exists_of_bringsIn base step k text hbrings
  exact spelled_canonical base p hbase (hp (hsteps step hstep))

lemma mem_files_of_get? (index : Index) (p : Path) (file : StoryFile)
    (h : index.get? p = some file) : (Path.canonical index.base p, file) ∈ index.files :=
  mem_of_lookup_eq_some _ _ _ h

/-- After any run, every entry is a story that was read under its key, which is canonical, and the
stories it includes are canonical, told apart, and next to it. Asking for any spelling of a path
gives nothing or the story of its canonical form. Where all paths are spelled, keys and includes
are read back from their texts. -/
theorem entries_filed_canonically (base : Path) (steps : List Step)
    (hbase : base.anchor ≠ .relative) :
    (∀ k file, (k, file) ∈ (run base steps).files →
      Path.canonical base k = k ∧ file.path = k ∧ file = StoryFile.read k file.text ∧
        file.includes.Nodup ∧ ∀ target ∈ file.includes,
          Path.canonical base target = target ∧ target.parent = k.parent) ∧
    (∀ p, (run base steps).get? p = none ∨ ∃ file, (run base steps).get? p = some file ∧
      file.path = Path.canonical base p) ∧
    (Spelled base → (∀ step ∈ steps, StepSpelled step) →
      ∀ k file, (k, file) ∈ (run base steps).files →
        Path.ofString k.render = k ∧
          ∀ target ∈ file.includes, Path.ofString target.render = target) := by
  refine ⟨?_, ?_, ?_⟩
  · intro k file hmem
    have hk : IsCanonical k := isCanonical_of_mem_files base steps k file hbase hmem
    have hread : file = StoryFile.read k file.text := read_of_mem_files base steps k file hmem
    refine ⟨canonical_of_isCanonical base k hk, by rw [hread]; rfl, hread, ?_, ?_⟩
    · rw [hread]
      exact nodup_includes k file.text
    · intro target htarget
      rw [hread] at htarget
      obtain ⟨name, _, hup, rfl⟩ := mem_includes k target file.text htarget
      have hnext := isCanonical_child k.parent name (isCanonical_parent k hk) hup
      exact ⟨canonical_of_isCanonical base _ hnext, parent_child k.parent name⟩
  · intro p
    cases hget : (run base steps).get? p with
    | none => exact Or.inl rfl
    | some file =>
      have hmem := mem_files_of_get? (run base steps) p file hget
      rw [base_run] at hmem
      have hread := read_of_mem_files base steps _ file hmem
      exact Or.inr ⟨file, rfl, by rw [hread]; rfl⟩
  · intro hspelled hsteps k file hmem
    have hk : Spelled k := spelled_of_mem_files base steps k file hspelled hsteps hmem
    refine ⟨ofString_render k hk, ?_⟩
    intro target htarget
    rw [read_of_mem_files base steps k file hmem] at htarget
    obtain ⟨name, hname, _, rfl⟩ := mem_includes k target file.text htarget
    exact ofString_render _ (spelled_child k.parent name (spelled_parent k hk) hname)

/-- An update of `../a.ink` from `/w` files the story under `/a.ink`, and `b.ink` is next to it. -/
theorem entries_filed_canonically_update :
    let base : Path := ⟨.root, ["w"]⟩
    let steps : List Step := [.update ⟨.relative, ["..", "a.ink"]⟩ "INCLUDE b.ink"]
    let k : Path := ⟨.root, ["a.ink"]⟩
    let target : Path := ⟨.root, ["b.ink"]⟩
    base.anchor ≠ .relative ∧ (k, StoryFile.read k "INCLUDE b.ink") ∈ (run base steps).files ∧
      target ∈ (StoryFile.read k "INCLUDE b.ink").includes ∧
      Path.canonical base k = k ∧ Path.canonical base target = target ∧
      Path.ofString k.render = k ∧ Path.ofString target.render = target := by
  intro base steps k target
  have hbase : base.anchor ≠ .relative := by decide
  have hmem : (k, StoryFile.read k "INCLUDE b.ink") ∈ (run base steps).files :=
    List.mem_singleton.mpr rfl
  have htarget : target ∈ (StoryFile.read k "INCLUDE b.ink").includes := by decide
  have hspelled : Spelled base := by simp [Spelled, IsName, Path.isSolid, base]
  have hsteps : ∀ step ∈ steps, StepSpelled step := by
    simp [steps, StepSpelled, Spelled, IsName, Path.isSolid]
  obtain ⟨hfiled, _, htexts⟩ := entries_filed_canonically base steps hbase
  obtain ⟨hk, _, _, _, hincludes⟩ := hfiled _ _ hmem
  obtain ⟨htext, htargets⟩ := htexts hspelled hsteps _ _ hmem
  exact ⟨hbase, hmem, htarget, hk, (hincludes target htarget).1, htext, htargets target htarget⟩

end StoryAtlas.Proofs
