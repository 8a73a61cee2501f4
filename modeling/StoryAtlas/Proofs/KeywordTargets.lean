import StoryAtlas.Proofs.OfferedNames

/-!
# Targets that need no definition

`END`, `DONE` and `->` are offered at every line without being defined. Nothing keeps a story from
declaring the first two: a header or a label may have such a name, and wherever it is in reach the
name is looked up like any other. The arrow is no name, so it is never defined.
-/

namespace StoryAtlas.Proofs
open StoryAtlas.Story

/-- A header or a label in reach of a line has the name: a knot header of a text in scope, or, for a
line of a known file or the place behind its end, a stitch header in the knot around the line or a
label in the stitch around it. -/
def DeclaredInReach (index : Index) (p : Path) (line : Int) (name : String) : Prop :=
  (∃ q ∈ index.includeScope p, ∃ file, index.entry? q = some file ∧
    ∃ number, (name, number) ∈ declared knotName? file.text) ∨
  ∃ file, index.get? p = some file ∧ (0 ≤ line ∧ line ≤ (Text.lines file.text).length) ∧
    ((∃ number, (name, number) ∈ declared stitchHeader? file.text ∧
        (knotRange file.text line).contains number = true) ∨
      ∃ number, (name, number) ∈ declared label? file.text ∧
        (stitchRange file.text line).contains number = true)

lemma named_declaredTargets_iff (kind : String) (k : Path) (declarations : List (String × Int))
    (name : String) :
    (∃ found ∈ declaredTargets kind k declarations, found.1.name = name) ↔
      ∃ number, (name, number) ∈ declarations := by
  simp only [declaredTargets, List.mem_map]
  constructor
  · rintro ⟨_, ⟨⟨other, number⟩, hmem, rfl⟩, rfl⟩
    exact ⟨number, hmem⟩
  · rintro ⟨number, hmem⟩
    exact ⟨_, ⟨(name, number), hmem, rfl⟩, rfl⟩

lemma named_targetsInScope_iff (index : Index) (p : Path) (name : String) :
    (∃ found ∈ targetsInScope index p, found.1.name = name) ↔
      ∃ q ∈ index.includeScope p, ∃ file, index.entry? q = some file ∧
        ∃ number, (name, number) ∈ declared knotName? file.text := by
  simp only [targetsInScope, List.mem_flatMap]
  constructor
  · rintro ⟨found, ⟨q, hq, hfound⟩, hname⟩
    cases hentry : index.entry? q with
    | none => simp [hentry] at hfound
    | some file =>
      rw [hentry, Option.elim_some] at hfound
      exact ⟨q, hq, file, hentry, (named_declaredTargets_iff _ _ _ _).mp ⟨found, hfound, hname⟩⟩
  · rintro ⟨q, hq, file, hentry, hnumber⟩
    obtain ⟨found, hfound, hname⟩ := (named_declaredTargets_iff "knot" q _ _).mpr hnumber
    refine ⟨found, ⟨q, hq, ?_⟩, hname⟩
    rw [hentry, Option.elim_some]
    exact hfound

lemma named_targetsAround_iff (k : Path) (text : String) (line : Int) (name : String) :
    (∃ found ∈ targetsAround k text line, found.1.name = name) ↔
      (0 ≤ line ∧ line ≤ (Text.lines text).length) ∧
        ((∃ number, (name, number) ∈ declared stitchHeader? text ∧
            (knotRange text line).contains number = true) ∨
          ∃ number, (name, number) ∈ declared label? text ∧
            (stitchRange text line).contains number = true) := by
  unfold targetsAround
  split_ifs with hline
  · simp only [hline, true_and, List.mem_append, or_and_right, exists_or, named_declaredTargets_iff,
      List.mem_filter]
  · simp [hline]

lemma named_diverts_iff (base : Path) (steps : List Step) (p : Path) (line : Int) (name : String) :
    (∃ found ∈ namedTargets ((run base steps).diverts p line), found.1.name = name) ↔
      DeclaredInReach (run base steps) p line name := by
  rw [namedTargets_diverts, DeclaredInReach, ← named_targetsInScope_iff]
  simp only [List.mem_append, or_and_right, exists_or]
  apply or_congr_right
  cases hget : (run base steps).get? p with
  | none => simp
  | some file =>
    simp only [Option.elim_some, Option.some.injEq, exists_eq_left']
    exact named_targetsAround_iff _ file.text line name

/-- After any run, a target that needs no definition is not defined from a line, unless a header or
a label in reach of the line has its name. None can have the name `->`. -/
theorem keyword_defined_iff_declared (base : Path) (steps : List Step) (p : Path) (line : Int) :
    (run base steps).definition? "->" p line = none ∧
    ∀ keyword ∈ permanentDiverts,
      ((run base steps).definition? keyword.name p line = none ↔
        ¬DeclaredInReach (run base steps) p line keyword.name) := by
  refine ⟨?_, ?_⟩
  · by_contra hdefined
    obtain ⟨_, found, hfound, hname⟩ := (defined_iff _ p line "->").mp hdefined
    have hdeclarable := declarable_of_mem_namedTargets base steps p line found hfound
    rw [hname] at hdeclarable
    exact absurd (hdeclarable.2 '-' (by decide)) (by decide)
  · intro keyword hkeyword
    have hname : keyword.name ≠ "" := by
      revert keyword
      decide
    rw [← not_iff_not, not_not, ← named_diverts_iff, ← Ne, defined_iff, and_iff_right hname]

/-- A story may call a knot `END` and a stitch of it `DONE`. -/
theorem keyword_declared_by_story :
    ¬∀ (base : Path) (steps : List Step) (p : Path) (line : Int), ∀ keyword ∈ permanentDiverts,
      (run base steps).definition? keyword.name p line = none := by
  intro h
  let main : Path := ⟨.relative, ["a.ink"]⟩
  have hend := h ⟨.root, ["w"]⟩ [.update main "=== END\n= DONE"] main 1 ⟨"END", "keyword"⟩ (by decide)
  exact absurd hend (by decide +kernel)

end StoryAtlas.Proofs
