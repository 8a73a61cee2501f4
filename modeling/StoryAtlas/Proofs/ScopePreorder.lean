import Mathlib.Data.Finset.Card
import Mathlib.Data.Finset.SDiff
import Mathlib.Data.List.Nodup
import Mathlib.Logic.Relation
import StoryAtlas.Index.Scope

/-!
# Scope as a depth-first preorder

The scope of a file is found by a loop over a stack of files that are still to be visited. It is
compared here with the recursive walk that visits a file before the files it includes, one include
after the other. The walk ends on every include graph, since each step into a file uses up one of
the known files; the loop ends with the same list, and that list holds what can be reached.
-/

namespace StoryAtlas.Proofs
open StoryAtlas.Story

/-! ### The recursive walk -/

/-- The number of known files that a walk has not visited. -/
def unvisited (index : Index) (visited : List Path) : Nat :=
  ((index.files.map Prod.fst).toFinset \ visited.toFinset).card

lemma unvisited_anti (index : Index) {visited more : List Path} (h : visited ⊆ more) :
    unvisited index more ≤ unvisited index visited := by
  apply Finset.card_le_card
  apply Finset.sdiff_subset_sdiff (Finset.Subset.refl _)
  intro q hq
  exact List.mem_toFinset.mpr (h (List.mem_toFinset.mp hq))

lemma mem_keys_of_entry? (index : Index) (q : Path) (file : StoryFile)
    (h : index.entry? q = some file) : q ∈ index.files.map Prod.fst := by
  obtain ⟨before, after, hfiles, _⟩ := List.lookup_eq_some_iff.mp h
  rw [hfiles]
  simp

lemma unvisited_append_lt (index : Index) (visited : List Path) (q : Path) (file : StoryFile)
    (hq : q ∉ visited) (h : index.entry? q = some file) :
    unvisited index (visited ++ [q]) < unvisited index visited := by
  have hkey := mem_keys_of_entry? index q file h
  apply Finset.card_lt_card
  rw [Finset.ssubset_iff_of_subset]
  · refine ⟨q, ?_, ?_⟩
    · simp only [Finset.mem_sdiff, List.mem_toFinset]
      exact ⟨hkey, hq⟩
    · simp
  · apply Finset.sdiff_subset_sdiff (Finset.Subset.refl _)
    intro r hr
    simp only [List.mem_toFinset] at hr ⊢
    exact List.mem_append_left _ hr

/-- Visits `q` and what it includes, behind the files already visited, which stay in front. -/
def visit (index : Index) (visited : List Path) (q : Path) :
    { scope : List Path // visited ⊆ scope } :=
  if _ : q ∈ visited then ⟨visited, List.Subset.refl _⟩
  else
    match _ : index.entry? q with
    | none => ⟨visited, List.Subset.refl _⟩
    | some file =>
      let start : { scope : List Path // visited ++ [q] ⊆ scope } :=
        ⟨visited ++ [q], List.Subset.refl _⟩
      let all := file.includes.foldl (fun sofar next =>
        let found := visit index sofar.1 next
        ⟨found.1, fun _ hr => found.2 (sofar.2 hr)⟩) start
      ⟨all.1, fun _ hr => all.2 (List.mem_append_left _ hr)⟩
termination_by unvisited index visited
decreasing_by
  have hless : unvisited index (visited ++ [q]) < unvisited index visited :=
    unvisited_append_lt index visited q file ‹_› ‹_›
  exact lt_of_le_of_lt (unvisited_anti index sofar.2) hless

/-- The depth-first preorder from `q`, behind the files already visited. -/
def preorder (index : Index) (visited : List Path) (q : Path) : List Path :=
  (visit index visited q).1

lemma foldl_visit_val (index : Index) (first : List Path) (includes : List Path)
    (sofar : { scope : List Path // first ⊆ scope }) :
    (includes.foldl (fun (sofar : { scope : List Path // first ⊆ scope }) next =>
      (⟨(visit index sofar.1 next).1, fun _ hr => (visit index sofar.1 next).2 (sofar.2 hr)⟩ :
        { scope : List Path // first ⊆ scope })) sofar).1 =
      includes.foldl (preorder index) sofar.1 := by
  induction includes generalizing sofar with
  | nil => rfl
  | cons next rest ih =>
    rw [List.foldl_cons, List.foldl_cons, ih]
    rfl

theorem preorder_eq (index : Index) (visited : List Path) (q : Path) :
    preorder index visited q =
      if q ∈ visited then visited
      else
        match index.entry? q with
        | none => visited
        | some file => file.includes.foldl (preorder index) (visited ++ [q]) := by
  unfold preorder
  rw [visit]
  split_ifs with hq
  · rfl
  · split
    · next hfile => simp only [hfile]
    · next file hfile =>
      simp only [hfile]
      exact foldl_visit_val index (visited ++ [q]) file.includes
        ⟨visited ++ [q], List.Subset.refl _⟩

lemma preorder_of_skip (index : Index) (visited : List Path) (q : Path)
    (h : q ∈ visited ∨ index.entry? q = none) : preorder index visited q = visited := by
  rw [preorder_eq]
  rcases h with hq | hentry
  · rw [if_pos hq]
  · simp only [hentry, ite_self]

lemma preorder_of_known (index : Index) (visited : List Path) (q : Path) (file : StoryFile)
    (hq : q ∉ visited) (h : index.entry? q = some file) :
    preorder index visited q = file.includes.foldl (preorder index) (visited ++ [q]) := by
  rw [preorder_eq, if_neg hq]
  simp only [h]

/-! ### The loop -/

/-- The loop over a stack of pending files, without a bound on its steps: from the files in scope
and those pending it ends with a scope. -/
inductive ScopeLoop (index : Index) : List Path → List Path → List Path → Prop where
  | done (scope : List Path) : ScopeLoop index scope [] scope
  | skip (scope pending result : List Path) (q : Path)
      (hskip : q ∈ scope ∨ index.entry? q = none)
      (rest : ScopeLoop index scope pending result) : ScopeLoop index scope (q :: pending) result
  | enter (scope pending result : List Path) (q : Path) (file : StoryFile) (hq : q ∉ scope)
      (hentry : index.entry? q = some file)
      (rest : ScopeLoop index (scope ++ [q]) (file.includes ++ pending) result) :
      ScopeLoop index scope (q :: pending) result

/-- The includes of the files that are not in scope yet. -/
def openIncludes (scope : List Path) (files : List (Path × StoryFile)) : List Path :=
  files.flatMap fun entry => if entry.1 ∈ scope then [] else entry.2.includes

lemma openIncludes_append_le (scope : List Path) (q : Path) (files : List (Path × StoryFile)) :
    (openIncludes (scope ++ [q]) files).length ≤ (openIncludes scope files).length := by
  induction files with
  | nil => exact Nat.le_refl _
  | cons entry files ih =>
    simp only [openIncludes, List.flatMap_cons, List.length_append] at ih ⊢
    have hentry : (if entry.1 ∈ scope ++ [q] then [] else entry.2.includes).length ≤
        (if entry.1 ∈ scope then [] else entry.2.includes).length := by
      by_cases hscope : entry.1 ∈ scope
      · simp [hscope]
      · rw [if_neg hscope]
        split_ifs <;> simp
    omega

/-- Entering a file uses up its includes. -/
lemma openIncludes_enter (scope : List Path) (q : Path) (file : StoryFile)
    (files : List (Path × StoryFile)) (hq : q ∉ scope) (h : files.lookup q = some file) :
    file.includes.length + (openIncludes (scope ++ [q]) files).length ≤
      (openIncludes scope files).length := by
  obtain ⟨before, after, rfl, _⟩ := List.lookup_eq_some_iff.mp h
  have hbefore := openIncludes_append_le scope q before
  have hafter := openIncludes_append_le scope q after
  have hself : q ∈ scope ++ [q] := by simp
  simp only [openIncludes, List.flatMap_append, List.flatMap_cons, List.length_append, if_pos hself,
    if_neg hq, List.length_nil] at *
  omega

lemma scopeLoop_scopeFrom (index : Index) (fuel : Nat) (scope pending : List Path)
    (hfuel : pending.length + (openIncludes scope index.files).length ≤ fuel) :
    ScopeLoop index scope pending (index.scopeFrom fuel scope pending) := by
  induction fuel generalizing scope pending with
  | zero =>
    have hnil : pending = [] := List.eq_nil_of_length_eq_zero (by omega)
    rw [hnil]
    exact ScopeLoop.done scope
  | succ fuel ih =>
    cases pending with
    | nil => exact ScopeLoop.done scope
    | cons q pending =>
      rw [List.length_cons] at hfuel
      unfold Index.scopeFrom
      by_cases hq : q ∈ scope
      · rw [if_pos (List.contains_iff_mem.mpr hq)]
        exact ScopeLoop.skip _ _ _ q (Or.inl hq) (ih scope pending (by omega))
      · rw [if_neg (fun hmem => hq (List.contains_iff_mem.mp hmem))]
        cases hentry : index.entry? q with
        | none => exact ScopeLoop.skip _ _ _ q (Or.inr hentry) (ih scope pending (by omega))
        | some file =>
          have hopen := openIncludes_enter scope q file index.files hq hentry
          apply ScopeLoop.enter _ _ _ q file hq hentry
          apply ih
          rw [List.length_append]
          omega

/-- The loop from a file ends, and the bound on its steps does not cut it short. -/
theorem scopeLoop_includeScope (index : Index) (p : Path) :
    ScopeLoop index [] [index.key p] (index.includeScope p) := by
  apply scopeLoop_scopeFrom
  have hopen : openIncludes [] index.files = index.files.flatMap fun entry => entry.2.includes := by
    simp [openIncludes]
  rw [hopen, List.length_singleton, Index.scopeSteps]
  omega

section Loop

variable {index : Index} {scope pending result : List Path}

/-- The loop does with its stack what the recursive walk does with the files one by one. -/
theorem scopeLoop_eq_foldl (h : ScopeLoop index scope pending result) :
    result = pending.foldl (preorder index) scope := by
  induction h with
  | done scope => rfl
  | skip scope pending result q hskip rest ih =>
    rw [List.foldl_cons, preorder_of_skip index scope q hskip]
    exact ih
  | enter scope pending result q file hq hentry rest ih =>
    rw [List.foldl_cons, preorder_of_known index scope q file hq hentry, ← List.foldl_append]
    exact ih

lemma scopeLoop_nodup (h : ScopeLoop index scope pending result) (hscope : scope.Nodup) :
    result.Nodup := by
  induction h with
  | done scope => exact hscope
  | skip scope pending result q hskip rest ih => exact ih hscope
  | enter scope pending result q file hq hentry rest ih =>
    apply ih
    rw [List.nodup_append]
    refine ⟨hscope, List.nodup_singleton q, ?_⟩
    intro r hr s hs
    obtain rfl : s = q := by simpa using hs
    exact fun heq => hq (heq ▸ hr)

lemma scopeLoop_isPrefix (h : ScopeLoop index scope pending result) : scope <+: result := by
  induction h with
  | done scope => exact List.prefix_refl scope
  | skip scope pending result q hskip rest ih => exact ih
  | enter scope pending result q file hq hentry rest ih => exact (List.prefix_append _ _).trans ih

/-- The index knows `q`, and `q` includes `r`. -/
def Includes (index : Index) (q r : Path) : Prop :=
  ∃ file, index.entry? q = some file ∧ r ∈ file.includes

/-- What a loop adds is known and can be reached from a pending file. -/
lemma scopeLoop_reached (h : ScopeLoop index scope pending result) (r : Path) (hr : r ∈ result) :
    r ∈ scope ∨ (index.entry? r).isSome = true ∧
      ∃ q ∈ pending, Relation.ReflTransGen (Includes index) q r := by
  induction h with
  | done scope => exact Or.inl hr
  | skip scope pending result q hskip rest ih =>
    exact (ih hr).imp_right fun ⟨hknown, s, hs, hreach⟩ =>
      ⟨hknown, s, List.mem_cons_of_mem _ hs, hreach⟩
  | enter scope pending result q file hq hentry rest ih =>
    rcases ih hr with hmem | ⟨hknown, s, hs, hreach⟩
    · rcases List.mem_append.mp hmem with hscope | hself
      · exact Or.inl hscope
      · obtain rfl : r = q := by simpa using hself
        exact Or.inr ⟨by simp [hentry], r, List.mem_cons_self, Relation.ReflTransGen.refl⟩
    · refine Or.inr ⟨hknown, ?_⟩
      rcases List.mem_append.mp hs with hinclude | hpending
      · exact ⟨q, List.mem_cons_self, Relation.ReflTransGen.head ⟨file, hentry, hinclude⟩ hreach⟩
      · exact ⟨s, List.mem_cons_of_mem _ hpending, hreach⟩

/-- Every known file that a file in scope includes is in scope or pending. -/
def Covered (index : Index) (scope pending : List Path) : Prop :=
  ∀ q ∈ scope, ∀ r, Includes index q r → (index.entry? r).isSome = true → r ∈ scope ∨ r ∈ pending

/-- A loop ends with a scope that includes nothing beyond itself and holds all that was pending. -/
lemma scopeLoop_closed (h : ScopeLoop index scope pending result)
    (hcovered : Covered index scope pending) :
    Covered index result [] ∧
      ∀ q ∈ pending, (index.entry? q).isSome = true → q ∈ result := by
  induction h with
  | done scope => exact ⟨hcovered, by simp⟩
  | skip scope pending result q hskip rest ih =>
    have hseen : (index.entry? q).isSome = true → q ∈ scope := by
      intro hknown
      rcases hskip with hq | hentry
      · exact hq
      · simp [hentry] at hknown
    have hpending : Covered index scope pending := by
      intro s hs r hincludes hknown
      rcases hcovered s hs r hincludes hknown with hscope | hmem
      · exact Or.inl hscope
      · rcases List.mem_cons.mp hmem with rfl | hmem
        · exact Or.inl (hseen hknown)
        · exact Or.inr hmem
    obtain ⟨hclosed, hall⟩ := ih hpending
    refine ⟨hclosed, ?_⟩
    intro r hr hknown
    rcases List.mem_cons.mp hr with rfl | hmem
    · exact (scopeLoop_isPrefix rest).subset (hseen hknown)
    · exact hall r hmem hknown
  | enter scope pending result q file hq hentry rest ih =>
    have hpending : Covered index (scope ++ [q]) (file.includes ++ pending) := by
      intro s hs r hincludes hknown
      rcases List.mem_append.mp hs with hscope | hself
      · rcases hcovered s hscope r hincludes hknown with hmem | hmem
        · exact Or.inl (List.mem_append_left _ hmem)
        · rcases List.mem_cons.mp hmem with rfl | hmem
          · exact Or.inl (by simp)
          · exact Or.inr (List.mem_append_right _ hmem)
      · obtain rfl : s = q := by simpa using hself
        obtain ⟨file', hentry', hr⟩ := hincludes
        obtain rfl : file = file' := Option.some.inj (hentry.symm.trans hentry')
        exact Or.inr (List.mem_append_left _ hr)
    obtain ⟨hclosed, hall⟩ := ih hpending
    refine ⟨hclosed, ?_⟩
    intro r hr hknown
    rcases List.mem_cons.mp hr with rfl | hmem
    · exact (scopeLoop_isPrefix rest).subset (by simp)
    · exact hall r (List.mem_append_right _ hmem) hknown

end Loop

lemma mem_includeScope_iff (index : Index) (p r : Path) :
    r ∈ index.includeScope p ↔ (index.entry? r).isSome = true ∧
      Relation.ReflTransGen (Includes index) (index.key p) r := by
  have hloop := scopeLoop_includeScope index p
  constructor
  · intro hr
    rcases scopeLoop_reached hloop r hr with hnil | ⟨hknown, q, hq, hreach⟩
    · cases hnil
    · obtain rfl : q = index.key p := by simpa using hq
      exact ⟨hknown, hreach⟩
  · rintro ⟨hknown, hreach⟩
    obtain ⟨hclosed, hall⟩ := scopeLoop_closed hloop (by simp [Covered])
    induction hreach with
    | refl => exact hall _ (by simp) hknown
    | tail hreach hincludes ih =>
      obtain ⟨file, hentry, _⟩ := id hincludes
      have hmem := ih (by simp [hentry])
      exact (hclosed _ hmem _ hincludes hknown).resolve_right (by simp)

/-- The scope of a file is where the loop ends, however many steps it takes, on any graph of
includes. It is the preorder of the plain recursive walk from the file: a walk passes over a file
that is visited or unknown, and otherwise goes on from the file to its includes from left to right.
Nothing is in scope twice, the file itself comes first, and what is in scope are the known files
that can be reached from it through known files. -/
theorem includeScope_is_preorder (index : Index) (p : Path) :
    ScopeLoop index [] [index.key p] (index.includeScope p) ∧
    (∀ visited q, preorder index visited q =
      if q ∈ visited then visited
      else
        match index.entry? q with
        | none => visited
        | some file => file.includes.foldl (preorder index) (visited ++ [q])) ∧
    index.includeScope p = preorder index [] (index.key p) ∧
    (index.includeScope p).Nodup ∧
    (index.includeScope p).head? = (index.get? p).map (fun _ => index.key p) ∧
    (index.get? p = none → index.includeScope p = []) ∧
    ∀ q, q ∈ index.includeScope p ↔ (index.entry? q).isSome = true ∧
      Relation.ReflTransGen (Includes index) (index.key p) q := by
  have hloop := scopeLoop_includeScope index p
  have hpreorder : index.includeScope p = preorder index [] (index.key p) :=
    scopeLoop_eq_foldl hloop
  have hunknown : index.get? p = none → index.includeScope p = [] := by
    intro hentry
    rw [hpreorder]
    exact preorder_of_skip index [] _ (Or.inr hentry)
  refine ⟨hloop, preorder_eq index, hpreorder, scopeLoop_nodup hloop List.nodup_nil, ?_, hunknown,
    mem_includeScope_iff index p⟩
  cases hentry : index.get? p with
  | none =>
    rw [hunknown hentry]
    rfl
  | some file =>
    cases hloop with
    | skip scope pending result q hskip rest =>
      have hnone : index.get? p = none := hskip.resolve_left (by simp)
      rw [hnone] at hentry
      cases hentry
    | enter scope pending result q file' hq hentry' rest =>
      obtain ⟨others, hscope⟩ := scopeLoop_isPrefix rest
      rw [← hscope]
      rfl

end StoryAtlas.Proofs
