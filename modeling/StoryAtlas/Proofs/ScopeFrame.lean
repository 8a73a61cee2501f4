import StoryAtlas.Index.Divert
import StoryAtlas.Proofs.IndexRuns
import StoryAtlas.Proofs.ScopePreorder

/-!
# What a lookup depends on

A lookup from a file asks the index for that file and for the files that those in its scope include,
and for nothing else. So two indexes that know the same at these places answer alike, and a change
of a file at any other place goes unnoticed, whatever the changed file includes.
-/

namespace StoryAtlas.Proofs
open StoryAtlas.Story

/-- The walk from `p` asks the index for `k`: it is `p` itself, or a file in scope includes it. -/
def Consulted (index : Index) (p k : Path) : Prop :=
  k = index.key p ∨ ∃ r ∈ index.includeScope p, Includes index r k

/-- The indexes know the same files at all places that a walk from `p` asks for. -/
structure AgreeAround (index other : Index) (p : Path) : Prop where
  base : other.base = index.base
  entries : ∀ k, Consulted index p k → other.entry? k = index.entry? k

/-- Every lookup from `p` has the same answer in both indexes. -/
structure SameLookups (index other : Index) (p : Path) : Prop where
  scope : other.includeScope p = index.includeScope p
  enclosing : ∀ line, other.enclosing? p line = index.enclosing? p line
  diverts : ∀ line, other.diverts p line = index.diverts p line
  completions : ∀ line, other.completions p line = index.completions p line
  definition : ∀ name line, other.definition? name p line = index.definition? name p line

lemma consulted_of_mem_includeScope (index : Index) (p r : Path)
    (h : r ∈ index.includeScope p) : Consulted index p r := by
  obtain ⟨_, hreach⟩ := (mem_includeScope_iff index p r).mp h
  cases hreach with
  | refl => exact Or.inl rfl
  | tail hreach hincludes =>
    -- the file in front of `r` includes something, so the index knows it
    obtain ⟨file, hentry, _⟩ := id hincludes
    have hscope := (mem_includeScope_iff index p _).mpr ⟨by simp [hentry], hreach⟩
    exact Or.inr ⟨_, hscope, hincludes⟩

section Agreeing

variable {index other : Index} {p : Path}

/-- A walk that stays within the scope of `p` is a walk in the other index too: a pending file was
asked for, and a file that is entered makes its includes asked for. -/
lemma scopeLoop_of_agree (h : AgreeAround index other p) {scope pending result : List Path}
    (hloop : ScopeLoop index scope pending result) (hresult : result ⊆ index.includeScope p)
    (hpending : ∀ k ∈ pending, Consulted index p k) : ScopeLoop other scope pending result := by
  induction hloop with
  | done scope => exact ScopeLoop.done scope
  | skip scope pending result q hskip rest ih =>
    obtain ⟨hq, hrest⟩ := List.forall_mem_cons.mp hpending
    apply ScopeLoop.skip _ _ _ q
    · rw [h.entries q hq]
      exact hskip
    · exact ih hresult hrest
  | enter scope pending result q file hnew hentry rest ih =>
    obtain ⟨hq, hrest⟩ := List.forall_mem_cons.mp hpending
    have hmem : q ∈ result := (scopeLoop_isPrefix rest).subset (by simp)
    apply ScopeLoop.enter _ _ _ q file hnew
    · rw [h.entries q hq]
      exact hentry
    · apply ih hresult
      intro k hk
      rcases List.mem_append.mp hk with hinclude | hold
      · exact Or.inr ⟨q, hresult hmem, file, hentry, hinclude⟩
      · exact hrest k hold

theorem includeScope_of_agree (h : AgreeAround index other p) :
    other.includeScope p = index.includeScope p := by
  have hkey : other.key p = index.key p := by rw [Index.key, Index.key, h.base]
  have hloop : ScopeLoop other [] [index.key p] (index.includeScope p) := by
    apply scopeLoop_of_agree h (scopeLoop_includeScope index p) (List.Subset.refl _)
    intro k hk
    exact Or.inl (List.mem_singleton.mp hk)
  have hother := scopeLoop_includeScope other p
  rw [hkey] at hother
  exact (scopeLoop_eq_foldl hother).trans (scopeLoop_eq_foldl hloop).symm

lemma enclosing?_of_agree (h : AgreeAround index other p) (line : Int) :
    other.enclosing? p line = index.enclosing? p line := by
  have hget : other.get? p = index.get? p := by
    rw [Index.get?, Index.key, h.base]
    exact h.entries _ (Or.inl rfl)
  rw [Index.enclosing?, hget]
  rfl

lemma diverts_of_agree (h : AgreeAround index other p) (line : Int) :
    other.diverts p line = index.diverts p line := by
  have hknots : ((index.includeScope p).flatMap fun path =>
      ((other.entry? path).map knotTargets).getD []) =
      (index.includeScope p).flatMap fun path =>
        ((index.entry? path).map knotTargets).getD [] := by
    apply List.flatMap_congr
    intro r hr
    rw [h.entries r (consulted_of_mem_includeScope index p r hr)]
  rw [Index.diverts, includeScope_of_agree h, hknots, enclosing?_of_agree h line]
  rfl

theorem sameLookups_of_agree (h : AgreeAround index other p) : SameLookups index other p where
  scope := includeScope_of_agree h
  enclosing := enclosing?_of_agree h
  diverts := diverts_of_agree h
  completions line := by rw [Index.completions, diverts_of_agree h line, Index.completions]
  definition name line := by rw [Index.definition?, diverts_of_agree h line, Index.definition?]

end Agreeing

/-- A change at a place that is neither `p` nor included by a file in the scope of `p` leaves every
lookup from `p` as it was. -/
theorem lookups_frame (index : Index) (p q : Path) (hself : index.key q ≠ index.key p)
    (hscope : ∀ r ∈ index.includeScope p, ∀ file, index.entry? r = some file →
      index.key q ∉ file.includes) :
    (∀ text, SameLookups index (index.update q text).1 p) ∧
    SameLookups index (index.remove q).1 p := by
  have hapart : ∀ k, Consulted index p k → k ≠ index.key q := by
    rintro k (hk | ⟨r, hr, file, hentry, hinclude⟩) heq
    · exact hself (heq.symm.trans hk)
    · exact hscope r hr file hentry (heq ▸ hinclude)
  constructor
  · intro text
    apply sameLookups_of_agree
    refine ⟨rfl, ?_⟩
    intro k hk
    rw [entry?_update, if_neg (hapart k hk)]
  · apply sameLookups_of_agree
    refine ⟨base_remove index q, ?_⟩
    intro k hk
    rw [entry?_remove, if_neg (hapart k hk)]

/-- The changed file includes the file that is asked about, and defines a knot of the same name. -/
theorem lookups_frame_backward_include :
    let base : Path := ⟨.root, ["story"]⟩
    let name (file : String) : Path := ⟨.relative, [file]⟩
    let index := run base [.update (name "main.ink") "INCLUDE a.ink\n-> x",
      .update (name "a.ink") "=== x", .update (name "b.ink") "=== y"]
    let changed := (index.update (name "b.ink") "INCLUDE main.ink\n=== x").1
    SameLookups index changed (name "main.ink") ∧
    SameLookups index (index.remove (name "b.ink")).1 (name "main.ink") ∧
    changed.includeScope (name "main.ink") =
      [⟨.root, ["story", "main.ink"]⟩, ⟨.root, ["story", "a.ink"]⟩] ∧
    changed.includeScope (name "b.ink") ≠ index.includeScope (name "b.ink") := by
  intro base name index changed
  have hscope : index.includeScope (name "main.ink") =
      [⟨.root, ["story", "main.ink"]⟩, ⟨.root, ["story", "a.ink"]⟩] := by
    decide +kernel
  have h := lookups_frame index (name "main.ink") (name "b.ink") (by decide +kernel) (by
    rw [hscope]
    decide +kernel)
  refine ⟨h.1 _, h.2, ?_, by decide +kernel⟩
  rw [(h.1 _).scope, hscope]

end StoryAtlas.Proofs
