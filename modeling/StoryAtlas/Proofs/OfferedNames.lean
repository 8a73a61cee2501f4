import StoryAtlas.Proofs.DefinitionLookup

/-!
# Offered names

The completions at a line are told by the texts, like the definitions: the names of all knot headers
in scope, those of the stitch headers in the knot around the line and of the labels in the stitch
around the line, each list in the order of the lines, and behind them the targets that need no
definition. So the names that are offered as something defined are those that can be looked up.
-/

namespace StoryAtlas.Proofs
open StoryAtlas.Story

/-- The names of numbered declarations, offered as things of one kind. -/
def offers (kind : String) (declarations : List (String × Int)) : List Candidate :=
  declarations.map fun found => ⟨found.1, kind⟩

/-- The knot headers of the texts in scope. -/
def offersInScope (index : Index) (p : Path) : List Candidate :=
  (index.includeScope p).flatMap fun q => (index.entry? q).elim [] fun file =>
    offers "knot" (declared knotName? file.text)

/-- The stitch headers in the knot around a line of a text, and the labels in the stitch around
it. -/
def offersAround (text : String) (line : Int) : List Candidate :=
  if 0 ≤ line ∧ line ≤ (Text.lines text).length then
    offers "stitch" ((declared stitchHeader? text).filter fun found =>
        (knotRange text line).contains found.2) ++
      offers "label" ((declared label? text).filter fun found =>
        (stitchRange text line).contains found.2)
  else []

/-! ### Names of targets -/

lemma map_fst_declaredTargets (kind : String) (k : Path) (declarations : List (String × Int)) :
    (declaredTargets kind k declarations).map Prod.fst = offers kind declarations := by
  rw [declaredTargets, List.map_map]
  rfl

lemma map_fst_targetsInScope (index : Index) (p : Path) :
    (targetsInScope index p).map Prod.fst = offersInScope index p := by
  rw [targetsInScope, List.map_flatMap, offersInScope]
  congr 1
  funext q
  cases index.entry? q with
  | none => rfl
  | some file => exact map_fst_declaredTargets "knot" q _

lemma map_fst_targetsAround (k : Path) (text : String) (line : Int) :
    (targetsAround k text line).map Prod.fst = offersAround text line := by
  unfold targetsAround offersAround
  split_ifs
  · rw [List.map_append, map_fst_declaredTargets, map_fst_declaredTargets]
  · rfl

lemma completions_eq (index : Index) (p : Path) (line : Int) :
    index.completions p line =
      (namedTargets (index.diverts p line)).map Prod.fst ++ permanentDiverts := by
  rw [Index.completions, namedTargets, List.map_filterMap]
  simp only [Option.map_map]
  rfl

/-! ### Declared names -/

lemma declarable_of_knotName? {line : List Char} {name : String} (h : knotName? line = some name) :
    Declarable name := by
  obtain ⟨⟨name, isFunction⟩, hheader, rfl⟩ := Option.map_eq_some_iff.mp h
  cases isFunction with
  | true =>
    obtain ⟨_, _, _, _, _, _, _, _, hname, _⟩ := (knotHeader?_function_iff line name).mp hheader
    exact hname.declarable
  | false =>
    obtain ⟨⟨_, _, _, _, _, hname, _⟩, _⟩ := (knotHeader?_knot_iff line name).mp hheader
    exact hname.declarable

lemma declarable_of_stitchHeader? {line : List Char} {name : String}
    (h : stitchHeader? line = some name) : Declarable name := by
  obtain ⟨_, _, _, _, _, hname, _⟩ := (stitchHeader?_eq_some_iff line name).mp h
  exact hname.declarable

lemma declarable_of_label? {line : List Char} {name : String} (h : label? line = some name) :
    Declarable name := by
  obtain ⟨_, _, _, _, _, _, _, hname, _⟩ := (label?_eq_some_iff line name).mp h
  exact hname

lemma declarable_of_mem_declaredTargets (read? : List Char → Option String)
    (hread : ∀ line name, read? line = some name → Declarable name) (kind : String) (k : Path)
    (text : String) (declarations : List (String × Int))
    (hsub : declarations ⊆ declared read? text) (found : Candidate × Location)
    (h : found ∈ declaredTargets kind k declarations) : Declarable found.1.name := by
  obtain ⟨⟨name, number⟩, hmem, rfl⟩ := List.mem_map.mp h
  obtain ⟨_, line, _, _, hname⟩ := line_of_mem_declared read? text name number (hsub hmem)
  exact hread line.toList name hname

lemma declarable_of_mem_namedTargets (base : Path) (steps : List Step) (p : Path) (line : Int)
    (found : Candidate × Location)
    (h : found ∈ namedTargets ((run base steps).diverts p line)) : Declarable found.1.name := by
  rw [namedTargets_diverts] at h
  rcases List.mem_append.mp h with hscope | haround
  · obtain ⟨q, _, hq⟩ := List.mem_flatMap.mp hscope
    cases hentry : Index.entry? (run base steps) q with
    | none => simp [hentry] at hq
    | some file =>
      rw [hentry, Option.elim_some] at hq
      exact declarable_of_mem_declaredTargets knotName? (fun _ _ => declarable_of_knotName?) _ _
        file.text _ (List.Subset.refl _) found hq
  · cases hget : (run base steps).get? p with
    | none => simp [hget] at haround
    | some file =>
      rw [hget, Option.elim_some, targetsAround] at haround
      split_ifs at haround
      · rcases List.mem_append.mp haround with hstitch | hlabel
        · exact declarable_of_mem_declaredTargets stitchHeader?
            (fun _ _ => declarable_of_stitchHeader?) _ _ file.text _
            (List.filter_subset_self _) found hstitch
        · exact declarable_of_mem_declaredTargets label? (fun _ _ => declarable_of_label?) _ _
            file.text _ (List.filter_subset_self _) found hlabel
      · cases haround

lemma ne_empty_of_mem_namedTargets (base : Path) (steps : List Step) (p : Path) (line : Int)
    (found : Candidate × Location)
    (h : found ∈ namedTargets ((run base steps).diverts p line)) : found.1.name ≠ "" :=
  (declarable_of_mem_namedTargets base steps p line found h).1

/-! ### Offered and defined -/

lemma kind_ne_keyword (address : Address) : address.kind ≠ "keyword" := by
  cases address <;> simp [Address.kind]

lemma offered_iff (index : Index) (p : Path) (line : Int) (name : String) :
    (∃ kind, kind ≠ "keyword" ∧ ⟨name, kind⟩ ∈ index.completions p line) ↔
      ∃ found ∈ namedTargets (index.diverts p line), found.1.name = name := by
  rw [completions_eq]
  constructor
  · rintro ⟨kind, hkind, hmem⟩
    rcases List.mem_append.mp hmem with hnamed | hpermanent
    · obtain ⟨found, hfound, hcandidate⟩ := List.mem_map.mp hnamed
      exact ⟨found, hfound, congrArg Candidate.name hcandidate⟩
    · obtain ⟨_, _, hcandidate⟩ := List.mem_map.mp hpermanent
      exact absurd (congrArg Candidate.kind hcandidate).symm hkind
  · rintro ⟨found, hfound, rfl⟩
    refine ⟨found.1.kind, ?_, List.mem_append_left _ (List.mem_map_of_mem hfound)⟩
    obtain ⟨target, _, hnamed⟩ := List.mem_filterMap.mp hfound
    obtain ⟨name, _, rfl⟩ := Option.map_eq_some_iff.mp hnamed
    exact kind_ne_keyword target.address

lemma defined_iff (index : Index) (p : Path) (line : Int) (name : String) :
    index.definition? name p line ≠ none ↔
      name ≠ "" ∧ ∃ found ∈ namedTargets (index.diverts p line), found.1.name = name := by
  by_cases hname : name = ""
  · simp [Index.definition?, hname]
  · have hfirst : index.definition? name p line =
        firstNamed? name (namedTargets (index.diverts p line)) := by
      rw [← firstTarget?_eq_firstNamed?]
      exact if_neg hname
    rw [hfirst, firstNamed?, Ne, Option.map_eq_none_iff, List.find?_eq_none]
    simp [hname]

/-- After any run, the completions at a line are the names of the knot headers in the texts in
scope, file by file and line by line; then, for a line of a known file or the place behind its end,
the names of the stitch headers in the knot around the line and those of the labels in the stitch
around the line; and then the three targets that need no definition. A name is offered as something
else than such a target exactly if it is defined from the line. -/
theorem completions_read_from_texts (base : Path) (steps : List Step) (p : Path) (line : Int) :
    (run base steps).completions p line =
      offersInScope (run base steps) p ++
        ((run base steps).get? p).elim [] (fun file => offersAround file.text line) ++
        [⟨"END", "keyword"⟩, ⟨"DONE", "keyword"⟩, ⟨"->", "keyword"⟩] ∧
    ∀ name, (∃ kind, kind ≠ "keyword" ∧ ⟨name, kind⟩ ∈ (run base steps).completions p line) ↔
      (run base steps).definition? name p line ≠ none := by
  refine ⟨?_, ?_⟩
  · rw [completions_eq, namedTargets_diverts, List.map_append, map_fst_targetsInScope]
    congr 2
    cases (run base steps).get? p with
    | none => rfl
    | some file => exact map_fst_targetsAround _ file.text line
  · intro name
    rw [offered_iff, defined_iff]
    constructor
    · rintro ⟨found, hfound, rfl⟩
      exact ⟨ne_empty_of_mem_namedTargets base steps p line found hfound, found, hfound, rfl⟩
    · rintro ⟨_, hoffered⟩
      exact hoffered

end StoryAtlas.Proofs
