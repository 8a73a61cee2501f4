import StoryAtlas.Index.Divert
import StoryAtlas.Proofs.CanonicalKeys
import StoryAtlas.Proofs.EnclosingRange

/-!
# Targets with a name

The targets that a line can divert to are listed from the outlines of the files in scope. Those with
a name are what the texts of these files declare: every knot header in scope, and for a line of a
known file the stitch headers in the knot around it and the labels in the stitch around it. Each
target carries the kind of its declaration, the file and the number of its line.
-/

namespace StoryAtlas.Proofs
open StoryAtlas.Story

/-- The name that a knot header declares. -/
def knotName? (line : List Char) : Option String :=
  (knotHeader? line).map KnotHeader.name

lemma declarationsFrom_map_name {α β γ : Type} (read? : α → Option β) (f : β → γ) (start : Nat)
    (lines : List α) :
    declarationsFrom (fun line => (read? line).map f) start lines =
      (declarationsFrom read? start lines).map fun found => (f found.1, found.2) := by
  simp only [declarationsFrom, List.map_filterMap, Option.map_map]
  rfl

lemma declared_knotName? (text : String) :
    declared knotName? text = (Outline.ofText text).knots.filterMap fun knot =>
      knot.name.map fun name => (name, knot.start) := by
  have hnames : declared knotName? text =
      (declared knotHeader? text).map fun found => (found.1.name, found.2) :=
    declarationsFrom_map_name (fun line : String => knotHeader? line.toList) KnotHeader.name 0 _
  rw [hnames, declared_knots, namedKnots, List.map_filterMap]
  simp only [Option.map_map]
  rfl

/-- The targets with a name: what is offered for each, and where it stands. -/
def namedTargets (targets : List Target) : List (Candidate × Location) :=
  targets.filterMap fun target => target.name.map fun name =>
    (⟨name, target.address.kind⟩, ⟨target.path, target.line⟩)

/-- Numbered declarations of one kind in the text at `k`, as targets. -/
def declaredTargets (kind : String) (k : Path) (declarations : List (String × Int)) :
    List (Candidate × Location) :=
  declarations.map fun found => (⟨found.1, kind⟩, ⟨k, found.2⟩)

/-! ### Lists of targets -/

section Listed

variable {α : Type} (k : Path) (address : Nat → Address) (name : α → Option String)
  (start : α → Int) (xs : List α)

/-- The targets that a list makes from left to right. -/
def listed : List Target :=
  xs.zipIdx.map fun found => ⟨k, address found.2, name found.1, start found.1⟩

lemma namedTargets_listed (kind : String) (hkind : ∀ i, (address i).kind = kind) :
    namedTargets (listed k address name start xs) =
      declaredTargets kind k
        (xs.filterMap fun x => (name x).map fun found => (found, start x)) := by
  unfold listed
  -- the positions go on from any number
  generalize 0 = i
  induction xs generalizing i with
  | nil => rfl
  | cons x xs ih =>
    have hrest := ih (i + 1)
    simp only [namedTargets, declaredTargets] at hrest ⊢
    rw [List.zipIdx_cons, List.map_cons]
    cases hname : name x with
    | none => simpa [hname] using hrest
    | some found => simpa [hname, hkind] using hrest

end Listed

lemma knotTargets_eq_listed (file : StoryFile) :
    knotTargets file = listed file.path .knot Knot.name Knot.start file.outline.knots := rfl

lemma stitchTargets_eq_listed (around : Enclosing) :
    stitchTargets around = listed around.file.path (.stitch around.knotIndex) Stitch.name
      Stitch.start around.knot.stitches := rfl

lemma labelTargets_eq_listed (around : Enclosing) :
    labelTargets around = listed around.file.path (.label around.knotIndex around.stitchIndex)
      (fun label => some label.name) Label.line around.stitch.labels := rfl

lemma namedTargets_knotTargets (k : Path) (text : String) :
    namedTargets (knotTargets (StoryFile.read k text)) =
      declaredTargets "knot" k (declared knotName? text) := by
  rw [declared_knotName?, knotTargets_eq_listed]
  exact namedTargets_listed k .knot Knot.name Knot.start _ "knot" fun _ => rfl

section Around

variable (k : Path) (text : String) (line : Int) (around : Enclosing)
  (h : Encloses (StoryFile.read k text) line around)

include h

lemma namedTargets_stitchTargets :
    namedTargets (stitchTargets around) =
      declaredTargets "stitch" k ((declared stitchHeader? text).filter fun found =>
        (knotRange text line).contains found.2) := by
  have hknot : around.knot ∈ (Outline.ofText text).knots := List.mem_of_getElem? h.knot
  rw [← namedStitches_around text line around.knot hknot h.knot_contains, stitchTargets_eq_listed,
    h.file_eq]
  exact namedTargets_listed k (.stitch around.knotIndex) Stitch.name Stitch.start _ "stitch"
    fun _ => rfl

lemma namedTargets_labelTargets :
    namedTargets (labelTargets around) =
      declaredTargets "label" k ((declared label? text).filter fun found =>
        (stitchRange text line).contains found.2) := by
  have hknot : around.knot ∈ (Outline.ofText text).knots := List.mem_of_getElem? h.knot
  have hstitch : around.stitch ∈ around.knot.stitches := List.mem_of_getElem? h.stitch
  have hnamed : (around.stitch.labels.filterMap fun label =>
      (some label.name).map fun found => (found, label.line)) = labelLines around.stitch :=
    congrFun (List.filterMap_eq_map (f := fun label : Label => (label.name, label.line))) _
  rw [← labelLines_around text line around.knot hknot h.knot_contains around.stitch hstitch
    h.stitch_contains, ← hnamed, labelTargets_eq_listed, h.file_eq]
  exact namedTargets_listed k (.label around.knotIndex around.stitchIndex)
    (fun label => some label.name) Label.line _ "label" fun _ => rfl

end Around

/-! ### What the texts declare -/

/-- The knots that the texts in scope declare. -/
def targetsInScope (index : Index) (p : Path) : List (Candidate × Location) :=
  (index.includeScope p).flatMap fun q => (index.entry? q).elim [] fun file =>
    declaredTargets "knot" q (declared knotName? file.text)

/-- The stitches of the knot around a line of the text at `k`, and the labels of the stitch around
it. -/
def targetsAround (k : Path) (text : String) (line : Int) : List (Candidate × Location) :=
  if 0 ≤ line ∧ line ≤ (Text.lines text).length then
    declaredTargets "stitch" k ((declared stitchHeader? text).filter fun found =>
        (knotRange text line).contains found.2) ++
      declaredTargets "label" k ((declared label? text).filter fun found =>
        (stitchRange text line).contains found.2)
  else []

lemma namedTargets_knots (base : Path) (steps : List Step) (p : Path) :
    namedTargets (((run base steps).includeScope p).flatMap fun path =>
      ((Index.entry? (run base steps) path).map knotTargets).getD []) =
      targetsInScope (run base steps) p := by
  rw [namedTargets, List.filterMap_flatMap, targetsInScope]
  congr 1
  funext q
  cases hentry : Index.entry? (run base steps) q with
  | none => rfl
  | some file =>
    have hknots := namedTargets_knotTargets q file.text
    rw [← read_of_entry? base steps q file hentry] at hknots
    exact hknots

lemma namedTargets_around (k : Path) (text : String) (line : Int) :
    ((StoryFile.read k text).enclosing? line).elim [] (fun around =>
      namedTargets (stitchTargets around) ++ namedTargets (labelTargets around)) =
      targetsAround k text line := by
  have hpart : Partitioned (StoryFile.read k text).outline := partitioned_ofText text
  have hcount : (StoryFile.read k text).outline.lineCount = (Text.lines text).length :=
    lineCount_ofText text
  unfold targetsAround
  split_ifs with hline
  · obtain ⟨around, hfind, _⟩ :=
      enclosing?_of_le (StoryFile.read k text) hpart line hline.1 (by rw [hcount]; exact hline.2)
    have hencloses := encloses_of_enclosing? _ line around hfind
    rw [hfind, Option.elim_some, namedTargets_stitchTargets k text line around hencloses,
      namedTargets_labelTargets k text line around hencloses]
  · rw [enclosing?_of_outside _ hpart line (by rw [hcount]; exact hline)]
    rfl

/-- After any run, the targets with a name are what the texts declare: the knots in scope, and what
stands around the line in the text of the file itself. -/
theorem namedTargets_diverts (base : Path) (steps : List Step) (p : Path) (line : Int) :
    namedTargets ((run base steps).diverts p line) =
      targetsInScope (run base steps) p ++
        ((run base steps).get? p).elim [] fun file =>
          targetsAround ((run base steps).key p) file.text line := by
  have hsplit : namedTargets ((run base steps).diverts p line) =
      targetsInScope (run base steps) p ++
        ((run base steps).enclosing? p line).elim [] fun around =>
          namedTargets (stitchTargets around) ++ namedTargets (labelTargets around) := by
    rw [← namedTargets_knots, Index.diverts]
    cases (run base steps).enclosing? p line with
    | none => exact (List.append_nil _).symm
    | some around =>
      simp only [namedTargets, List.filterMap_append, List.append_assoc, Option.elim_some]
  rw [hsplit, Index.enclosing?]
  congr 1
  cases hget : (run base steps).get? p with
  | none => rfl
  | some file =>
    have haround := namedTargets_around ((run base steps).key p) file.text line
    rw [← read_of_entry? base steps _ file hget] at haround
    exact haround

end StoryAtlas.Proofs
