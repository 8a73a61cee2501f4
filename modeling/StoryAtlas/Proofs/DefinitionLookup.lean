import StoryAtlas.Proofs.NamedTargets

/-!
# Definitions by the texts

Where a name is defined is a question about the texts of the known files: the first knot header with
the name in the files in scope, then the first stitch header with the name in the knot around the
line, then the first label with the name in the stitch around the line. The lookup over the targets
of an index answers just that, after any run.
-/

namespace StoryAtlas.Proofs
open StoryAtlas.Story

/-- The number of the first of some numbered declarations that has the name. -/
def firstLine? (name : String) (declarations : List (String × Int)) : Option Int :=
  (declarations.find? fun found => found.1 == name).map Prod.snd

/-- The line of a text with this number is a header or a label with the name. -/
def DeclaresAt (text : String) (number : Int) (name : String) : Prop :=
  ∃ (n : Nat) (line : String), number = n ∧ (Text.lines text)[n]? = some line ∧
    (knotName? line.toList = some name ∨ stitchHeader? line.toList = some name ∨
      label? line.toList = some name)

/-! ### Declarations of a text -/

lemma line_of_mem_declared {γ : Type} (read? : List Char → Option γ) (text : String) (found : γ)
    (number : Int) (h : (found, number) ∈ declared read? text) :
    ∃ (n : Nat) (line : String), number = n ∧ (Text.lines text)[n]? = some line ∧
      read? line.toList = some found := by
  obtain ⟨⟨line, n⟩, hmem, hread⟩ := List.mem_filterMap.mp h
  obtain ⟨other, hother, heq⟩ := Option.map_eq_some_iff.mp hread
  obtain ⟨rfl, rfl⟩ : other = found ∧ (n : Int) = number := by simpa using heq
  exact ⟨n, line, rfl, List.mem_zipIdx_iff_getElem?.mp hmem, hother⟩

lemma mem_of_firstLine? (name : String) (declarations : List (String × Int)) (number : Int)
    (h : firstLine? name declarations = some number) : (name, number) ∈ declarations := by
  obtain ⟨found, hfind, rfl⟩ := Option.map_eq_some_iff.mp h
  have hname : found.1 = name := by simpa using List.find?_some hfind
  rw [← hname]
  exact List.mem_of_find?_eq_some hfind

/-! ### Targets -/

/-- The place of the first target with the name. -/
def firstTarget? (name : String) (targets : List Target) : Option Location :=
  (targets.find? fun target => target.name == some name).map fun target =>
    ⟨target.path, target.line⟩

lemma firstTarget?_append (name : String) (targets more : List Target) :
    firstTarget? name (targets ++ more) =
      (firstTarget? name targets).or (firstTarget? name more) := by
  simp only [firstTarget?, List.find?_append, Option.map_or]

/-- The place of the first named target that has the name. -/
def firstNamed? (name : String) (targets : List (Candidate × Location)) : Option Location :=
  (targets.find? fun found => found.1.name == name).map Prod.snd

lemma firstTarget?_eq_firstNamed? (name : String) (targets : List Target) :
    firstTarget? name targets = firstNamed? name (namedTargets targets) := by
  induction targets with
  | nil => rfl
  | cons target targets ih =>
    simp only [firstTarget?, firstNamed?, namedTargets] at ih ⊢
    cases hname : target.name with
    | none => simpa [hname] using ih
    | some found =>
      by_cases hfound : found = name
      · simp [hname, hfound]
      · simpa [hname, hfound] using ih

lemma firstNamed?_declaredTargets (name kind : String) (k : Path)
    (declarations : List (String × Int)) :
    firstNamed? name (declaredTargets kind k declarations) =
      (firstLine? name declarations).map (Location.mk k) := by
  rw [firstNamed?, declaredTargets, List.find?_map, firstLine?, Option.map_map, Option.map_map]
  rfl

lemma firstNamed?_append (name : String) (targets more : List (Candidate × Location)) :
    firstNamed? name (targets ++ more) =
      (firstNamed? name targets).or (firstNamed? name more) := by
  simp only [firstNamed?, List.find?_append, Option.map_or]

lemma firstNamed?_flatMap {α : Type} (name : String) (xs : List α)
    (targets : α → List (Candidate × Location)) :
    firstNamed? name (xs.flatMap targets) =
      xs.findSome? fun x => firstNamed? name (targets x) := by
  simp only [firstNamed?, List.find?_flatMap, List.map_findSome?]
  rfl

/-! ### Lookup -/

/-- The first knot header with the name in the texts in scope. -/
def knotInScope? (index : Index) (name : String) (p : Path) : Option Location :=
  (index.includeScope p).findSome? fun q => (index.entry? q).bind fun file =>
    (firstLine? name (declared knotName? file.text)).map (Location.mk q)

/-- The first stitch header with the name in the knot around a line of the text at `k`, or the first
label with the name in the stitch around it. -/
def targetAround? (name : String) (k : Path) (text : String) (line : Int) : Option Location :=
  if 0 ≤ line ∧ line ≤ (Text.lines text).length then
    ((firstLine? name ((declared stitchHeader? text).filter fun found =>
        (knotRange text line).contains found.2)).or
      (firstLine? name ((declared label? text).filter fun found =>
        (stitchRange text line).contains found.2))).map (Location.mk k)
  else none

lemma firstTarget?_knots (base : Path) (steps : List Step) (name : String) (p : Path) :
    firstTarget? name (((run base steps).includeScope p).flatMap fun path =>
      ((Index.entry? (run base steps) path).map knotTargets).getD []) =
      knotInScope? (run base steps) name p := by
  rw [firstTarget?_eq_firstNamed?, namedTargets_knots, targetsInScope, firstNamed?_flatMap,
    knotInScope?]
  congr 1
  funext q
  cases Index.entry? (run base steps) q with
  | none => rfl
  | some file => exact firstNamed?_declaredTargets name "knot" q _

lemma firstNamed?_targetsAround (name : String) (k : Path) (text : String) (line : Int) :
    firstNamed? name (targetsAround k text line) = targetAround? name k text line := by
  unfold targetsAround targetAround?
  split_ifs
  · rw [firstNamed?_append, firstNamed?_declaredTargets, firstNamed?_declaredTargets, Option.map_or]
  · rfl

lemma firstTarget?_around (name : String) (k : Path) (text : String) (line : Int) :
    ((StoryFile.read k text).enclosing? line).elim none (fun around =>
      (firstTarget? name (stitchTargets around)).or (firstTarget? name (labelTargets around))) =
      targetAround? name k text line := by
  rw [← firstNamed?_targetsAround, ← namedTargets_around]
  cases (StoryFile.read k text).enclosing? line with
  | none => rfl
  | some around =>
    simp only [Option.elim_some, firstNamed?_append, firstTarget?_eq_firstNamed?]

lemma firstTarget?_diverts (index : Index) (name : String) (p : Path) (line : Int) :
    firstTarget? name (index.diverts p line) =
      (firstTarget? name ((index.includeScope p).flatMap fun path =>
        ((index.entry? path).map knotTargets).getD [])).or
      ((index.enclosing? p line).elim none fun around =>
        (firstTarget? name (stitchTargets around)).or
          (firstTarget? name (labelTargets around))) := by
  unfold Index.diverts
  cases index.enclosing? p line with
  | none => exact Option.or_none.symm
  | some around =>
    dsimp only
    rw [firstTarget?_append, firstTarget?_append, Option.or_assoc]
    rfl

lemma declaresAt_of_knotInScope? (index : Index) (name : String) (p : Path) (found : Location)
    (h : knotInScope? index name p = some found) :
    ∃ file, index.entry? found.path = some file ∧ DeclaresAt file.text found.line name := by
  obtain ⟨q, _, hq⟩ := List.exists_of_findSome?_eq_some h
  obtain ⟨file, hentry, hfirst⟩ := Option.bind_eq_some_iff.mp hq
  obtain ⟨number, hnumber, rfl⟩ := Option.map_eq_some_iff.mp hfirst
  obtain ⟨n, line, hn, hline, hread⟩ :=
    line_of_mem_declared _ _ _ _ (mem_of_firstLine? _ _ _ hnumber)
  exact ⟨file, hentry, n, line, hn, hline, Or.inl hread⟩

lemma declaresAt_of_targetAround? (name : String) (k : Path) (text : String) (line : Int)
    (found : Location) (h : targetAround? name k text line = some found) :
    found.path = k ∧ DeclaresAt text found.line name := by
  unfold targetAround? at h
  split_ifs at h
  obtain ⟨number, hnumber, rfl⟩ := Option.map_eq_some_iff.mp h
  refine ⟨rfl, ?_⟩
  rcases Option.or_eq_some_iff.mp hnumber with hstitch | ⟨_, hlabel⟩
  · obtain ⟨n, line, hn, hline, hread⟩ := line_of_mem_declared _ _ _ _
      (List.mem_of_mem_filter (mem_of_firstLine? _ _ _ hstitch))
    exact ⟨n, line, hn, hline, Or.inr (Or.inl hread)⟩
  · obtain ⟨n, line, hn, hline, hread⟩ := line_of_mem_declared _ _ _ _
      (List.mem_of_mem_filter (mem_of_firstLine? _ _ _ hlabel))
    exact ⟨n, line, hn, hline, Or.inr (Or.inr hread)⟩

/-- After any run, a name is defined where the texts say so: at the first knot header with the name
in the first file in scope that has one; else, for a line of a known file or the place behind its
end, at the first stitch header with the name in the knot around the line; else at the first label
with the name in the stitch around the line; and else nowhere. So a definition is a line of the text
of a known file, a header or a label with this very name. -/
theorem definition_read_from_texts (base : Path) (steps : List Step) (p : Path) (line : Int)
    (name : String) (hname : name ≠ "") :
    (run base steps).definition? name p line =
      (knotInScope? (run base steps) name p).or
        (((run base steps).get? p).bind fun file =>
          targetAround? name ((run base steps).key p) file.text line) ∧
    ∀ found, (run base steps).definition? name p line = some found →
      ∃ file, Index.entry? (run base steps) found.path = some file ∧
        DeclaresAt file.text found.line name := by
  have hlookup : (run base steps).definition? name p line =
      (knotInScope? (run base steps) name p).or
        (((run base steps).get? p).bind fun file =>
          targetAround? name ((run base steps).key p) file.text line) := by
    have hfirst : (run base steps).definition? name p line =
        firstTarget? name ((run base steps).diverts p line) := if_neg hname
    rw [hfirst, firstTarget?_diverts, firstTarget?_knots]
    congr 1
    cases hget : (run base steps).get? p with
    | none => simp only [Index.enclosing?, hget, Option.elim_none, Option.bind_none]
    | some file =>
      have hread := read_of_entry? base steps _ file hget
      have haround := firstTarget?_around name ((run base steps).key p) file.text line
      rw [← hread] at haround
      simp only [Index.enclosing?, hget, Option.bind_some]
      exact haround
  refine ⟨hlookup, ?_⟩
  intro found hfound
  rw [hlookup] at hfound
  rcases Option.or_eq_some_iff.mp hfound with hknot | ⟨_, haround⟩
  · exact declaresAt_of_knotInScope? _ name p found hknot
  · obtain ⟨file, hget, htarget⟩ := Option.bind_eq_some_iff.mp haround
    obtain ⟨hpath, hdeclares⟩ := declaresAt_of_targetAround? name _ file.text line found htarget
    rw [hpath]
    exact ⟨file, hget, hdeclares⟩

/-- The name `b` stands for a knot of an included file, for a stitch and for a label. The knot
counts from everywhere; without it, the stitch counts in its own knot alone. -/
theorem definition_read_from_texts_include :
    let base : Path := ⟨.root, ["w"]⟩
    let main : Path := ⟨.relative, ["a.ink"]⟩
    let steps : List Step := [.update main "INCLUDE c.ink\n=== k\n= b\n- (b)\n=== l\n- (b)"]
    let more : List Step := steps ++ [.update ⟨.relative, ["c.ink"]⟩ "\n=== b"]
    "b" ≠ "" ∧
      (run base more).definition? "b" main 3 = some ⟨⟨.root, ["w", "c.ink"]⟩, 1⟩ ∧
      (run base steps).definition? "b" main 3 = some ⟨⟨.root, ["w", "a.ink"]⟩, 2⟩ ∧
      (run base steps).definition? "b" main 4 = some ⟨⟨.root, ["w", "a.ink"]⟩, 5⟩ := by
  intro base main steps more
  have hname : "b" ≠ "" := by decide
  refine ⟨hname, ?_, ?_, ?_⟩
  · rw [(definition_read_from_texts base more main 3 "b" hname).1]
    decide +kernel
  · rw [(definition_read_from_texts base steps main 3 "b" hname).1]
    decide +kernel
  · rw [(definition_read_from_texts base steps main 4 "b" hname).1]
    decide +kernel

end StoryAtlas.Proofs
