import StoryAtlas.Proofs.CanonicalKeys
import StoryAtlas.Proofs.EnclosingRange

/-!
# The nearest headers above a line

The search for the knot and the stitch around a line goes by the ranges of the outline. A reader of
the text goes up from the line instead: to the last knot header that is not below it, and to the
last stitch header between the two. Both come to the same knot and stitch, from every line and from
the place behind the last one, and no other knot and stitch of the file contain the line.
-/

namespace StoryAtlas.Proofs
open StoryAtlas.Story

variable {α γ : Type}

/-- The last of some numbered declarations that is not below a line. -/
def lastUpTo (declarations : List (γ × Int)) (line : Int) : Option (γ × Int) :=
  (declarations.filter fun found => decide (found.2 ≤ line)).getLast?

lemma lastUpTo_append (above below : List (γ × Int)) (line : Int) :
    lastUpTo (above ++ below) line = (lastUpTo below line).or (lastUpTo above line) := by
  rw [lastUpTo, List.filter_append, List.getLast?_append]
  rfl

lemma lastUpTo_eq_none (declarations : List (γ × Int)) (line : Int)
    (h : ∀ found ∈ declarations, line < found.2) : lastUpTo declarations line = none := by
  have hnil : declarations.filter (fun found => decide (found.2 ≤ line)) = [] := by
    rw [List.filter_eq_nil_iff]
    simpa using h
  rw [lastUpTo, hnil, List.getLast?_nil]

/-! ### Tilings -/

section Tiles

variable {start stop : α → Int} {first last : Int} {xs : List α}

/-- Where all ranges of a tiling but the first are declared at their starts, the range around a line
is the one that is declared last, going up from the line; without a declaration it is the first. -/
theorem lastUpTo_of_tiles (h : Tiles start stop first last xs) (declare? : α → Option (γ × Int))
    (hstart : ∀ x found, declare? x = some found → found.2 = start x)
    (htail : ∀ y ∈ xs.tail, declare? y ≠ none) {x : α} (hx : x ∈ xs) {line : Int}
    (hle : start x ≤ line) (hlt : line < stop x) :
    lastUpTo (xs.filterMap declare?) line = declare? x := by
  induction xs generalizing first with
  | nil => cases hx
  | cons y ys ih =>
    obtain ⟨_, _, hrest⟩ := h
    rw [List.filterMap_eq_flatMap_toList, List.flatMap_cons, ← List.filterMap_eq_flatMap_toList,
      lastUpTo_append]
    rcases List.mem_cons.mp hx with rfl | hmem
    · have hbelow : lastUpTo (ys.filterMap declare?) line = none := by
        apply lastUpTo_eq_none
        intro found hfound
        obtain ⟨z, hz, hdeclare⟩ := List.mem_filterMap.mp hfound
        have hbounds := tiles_bounds hrest hz
        have hnumber := hstart z found hdeclare
        omega
      rw [hbelow, Option.none_or]
      cases hdeclare : declare? x with
      | none => rfl
      | some found =>
        have hnumber := hstart x found hdeclare
        simp [lastUpTo, hnumber, hle]
    · have hsome : declare? x ≠ none := htail x hmem
      rw [ih hrest (fun z hz => htail z (List.mem_of_mem_tail hz)) hmem]
      obtain ⟨found, hfound⟩ := Option.ne_none_iff_exists'.mp hsome
      rw [hfound, Option.some_or]

lemma tiles_position_unique (h : Tiles start stop first last xs) {i j : Nat} {x y : α} {line : Int}
    (hi : xs[i]? = some x) (hj : xs[j]? = some y) (hx : start x ≤ line ∧ line < stop x)
    (hy : start y ≤ line ∧ line < stop y) : i = j := by
  have hpairs := List.pairwise_iff_getElem.mp (tiles_pairwise h)
  obtain ⟨hi', rfl⟩ := List.getElem?_eq_some_iff.mp hi
  obtain ⟨hj', rfl⟩ := List.getElem?_eq_some_iff.mp hj
  rcases Nat.lt_trichotomy i j with hlt | heq | hgt
  · have hapart := hpairs i j hi' hj' hlt
    omega
  · exact heq
  · have hapart := hpairs j i hj' hi' hgt
    omega

end Tiles

lemma position_eq_zero {xs : List α} {i : Nat} {x : α} (hi : xs[i]? = some x)
    (h : x ∉ xs.tail) : i = 0 := by
  cases i with
  | zero => rfl
  | succ i =>
    rw [← List.getElem?_tail] at hi
    exact absurd (List.mem_of_getElem? hi) h

/-! ### Headers of a text -/

section Outline

variable (text : String) (line : Int)

/-- The place behind the last line has the same declarations above it as the last line. -/
lemma lastUpTo_min (declarations : List (γ × Int)) (count : Int)
    (h : ∀ found ∈ declarations, found.2 < count) :
    lastUpTo declarations (min line (count - 1)) = lastUpTo declarations line := by
  unfold lastUpTo
  congr 1
  apply List.filter_congr
  intro found hfound
  have hlt := h found hfound
  rw [decide_eq_decide]
  omega

lemma lt_of_mem_declared (read? : List Char → Option γ) (found : γ × Int)
    (h : found ∈ declared read? text) : found.2 < (Outline.ofText text).lineCount := by
  have hbounds := line_of_mem_declarationsFrom h
  rw [lineCount_ofText]
  omega

lemma lastUpTo_knots (knot : Knot) (hknot : knot ∈ (Outline.ofText text).knots)
    (hline : knot.contains line = true) :
    lastUpTo (declared knotHeader? text) line =
      knot.name.map fun name => (⟨name, knot.isFunction⟩, knot.start) := by
  obtain ⟨hle, hlt⟩ := Knot.contains_iff.mp hline
  rw [declared_knots, namedKnots]
  apply lastUpTo_of_tiles (partitioned_ofText text).tiles _ _ _ hknot hle hlt
  · intro other found hfound
    obtain ⟨name, _, rfl⟩ := Option.map_eq_some_iff.mp hfound
    rfl
  · intro other hother
    simpa using name_of_mem_tail_knots _ other hother

lemma lastUpTo_stitches (knot : Knot) (hknot : knot ∈ (Outline.ofText text).knots)
    (hline : knot.contains line = true) (stitch : Stitch) (hstitch : stitch ∈ knot.stitches)
    (hin : stitch.contains line = true) :
    lastUpTo ((declared stitchHeader? text).filter fun found => decide (knot.start ≤ found.2))
      line = stitch.name.map fun name => (name, stitch.start) := by
  obtain ⟨_, hstop⟩ := Knot.contains_iff.mp hline
  obtain ⟨hle, hlt⟩ := Stitch.contains_iff.mp hin
  -- headers behind the knot are below the line
  have hknown : lastUpTo ((declared stitchHeader? text).filter fun found =>
      decide (knot.start ≤ found.2)) line = lastUpTo (namedStitches knot) line := by
    rw [declared_stitches text knot hknot, lastUpTo, lastUpTo, List.filter_filter,
      List.filter_filter]
    congr 1
    apply List.filter_congr
    intro found _
    rw [Bool.eq_iff_iff]
    simp only [Bool.and_eq_true, decide_eq_true_eq, Knot.contains_iff]
    omega
  rw [hknown, namedStitches]
  apply lastUpTo_of_tiles ((partitioned_ofText text).filled knot hknot).tiles _ _ _ hstitch hle hlt
  · intro other found hfound
    obtain ⟨name, _, rfl⟩ := Option.map_eq_some_iff.mp hfound
    rfl
  · intro other hother
    simpa using name_of_mem_tail_of_mem_knots text knot hknot other hother

end Outline

/-- The knot was started by this header in this line; without a header it is the first knot of the
file and has no name. -/
def KnotStartedBy (around : Enclosing) : Option (KnotHeader × Int) → Prop
  | some (header, number) => around.knot.name = some header.name ∧
      around.knot.isFunction = header.isFunction ∧ around.knot.start = number
  | none => around.knot.name = none ∧ around.knotIndex = 0

/-- The stitch was started by the header with this name in this line; without a header it is the
first stitch of its knot and has no name. -/
def StitchStartedBy (around : Enclosing) : Option (String × Int) → Prop
  | some (name, number) => around.stitch.name = some name ∧ around.stitch.start = number
  | none => around.stitch.name = none ∧ around.stitchIndex = 0

section Encloses

variable {k : Path} {text : String} {line : Int} {around : Enclosing}

lemma knotStartedBy_of_encloses (h : Encloses (StoryFile.read k text) line around) :
    KnotStartedBy around (lastUpTo (declared knotHeader? text)
      (min line ((Outline.ofText text).lineCount - 1))) := by
  have hmem : around.knot ∈ (Outline.ofText text).knots := List.mem_of_getElem? h.knot
  rw [lastUpTo_min line _ _ (lt_of_mem_declared text knotHeader?),
    lastUpTo_knots text line around.knot hmem h.knot_contains]
  cases hname : around.knot.name with
  | some name => exact ⟨hname, rfl, rfl⟩
  | none =>
    refine ⟨hname, position_eq_zero h.knot ?_⟩
    intro htail
    exact name_of_mem_tail_knots _ around.knot htail hname

lemma stitchStartedBy_of_encloses (h : Encloses (StoryFile.read k text) line around) :
    StitchStartedBy around (lastUpTo ((declared stitchHeader? text).filter fun found =>
      decide (around.knot.start ≤ found.2)) (min line ((Outline.ofText text).lineCount - 1))) := by
  have hmem : around.knot ∈ (Outline.ofText text).knots := List.mem_of_getElem? h.knot
  have hstitch : around.stitch ∈ around.knot.stitches := List.mem_of_getElem? h.stitch
  rw [lastUpTo_min line _ _ fun found hfound =>
      lt_of_mem_declared text stitchHeader? found (List.mem_of_mem_filter hfound),
    lastUpTo_stitches text line around.knot hmem h.knot_contains around.stitch hstitch
      h.stitch_contains]
  cases hname : around.stitch.name with
  | some name => exact ⟨hname, rfl⟩
  | none =>
    refine ⟨hname, position_eq_zero h.stitch ?_⟩
    intro htail
    exact name_of_mem_tail_of_mem_knots text around.knot hmem around.stitch htail hname

lemma positions_of_encloses (h : Encloses (StoryFile.read k text) line around) {i j : Nat}
    {knot : Knot} {stitch : Stitch} (hi : (Outline.ofText text).knots[i]? = some knot)
    (hj : knot.stitches[j]? = some stitch) :
    knot.contains line = true ∧ stitch.contains line = true ↔
      i = around.knotIndex ∧ j = around.stitchIndex := by
  have hpart := partitioned_ofText text
  constructor
  · rintro ⟨hknot, hstitch⟩
    obtain rfl : i = around.knotIndex := tiles_position_unique hpart.tiles hi h.knot
      (Knot.contains_iff.mp hknot) (Knot.contains_iff.mp h.knot_contains)
    obtain rfl : knot = around.knot := Option.some.inj (hi.symm.trans h.knot)
    have hfilled := hpart.filled _ (List.mem_of_getElem? hi)
    exact ⟨rfl, tiles_position_unique hfilled.tiles hj h.stitch (Stitch.contains_iff.mp hstitch)
      (Stitch.contains_iff.mp h.stitch_contains)⟩
  · rintro ⟨rfl, rfl⟩
    obtain rfl : knot = around.knot := Option.some.inj (hi.symm.trans h.knot)
    obtain rfl : stitch = around.stitch := Option.some.inj (hj.symm.trans h.stitch)
    exact ⟨h.knot_contains, h.stitch_contains⟩

end Encloses

/-- After any run, the search from a line of a known file fails outside the file alone; the place
behind its last line still belongs to it and counts as the last line. Otherwise the knot that is
found is the one that the last knot header at or above the line has started, and the stitch is the
one that the last stitch header at or above the line, and not above the knot, has started. They are
the only knot and stitch of the file that contain the line. -/
theorem enclosing_by_nearest_headers (base : Path) (steps : List Step) (p : Path) (line : Int)
    (file : StoryFile) (hfile : (run base steps).get? p = some file) :
    let above := min line (file.outline.lineCount - 1)
    ((run base steps).enclosing? p line = none ↔ line < 0 ∨ file.outline.lineCount < line) ∧
    ∀ around, (run base steps).enclosing? p line = some around →
      around.file = file ∧
      file.outline.knots[around.knotIndex]? = some around.knot ∧
      around.knot.stitches[around.stitchIndex]? = some around.stitch ∧
      KnotStartedBy around (lastUpTo (declared knotHeader? file.text) above) ∧
      StitchStartedBy around (lastUpTo ((declared stitchHeader? file.text).filter fun found =>
        decide (around.knot.start ≤ found.2)) above) ∧
      ∀ i knot j stitch, file.outline.knots[i]? = some knot → knot.stitches[j]? = some stitch →
        (knot.contains line = true ∧ stitch.contains line = true ↔
          i = around.knotIndex ∧ j = around.stitchIndex) := by
  intro above
  have hsearch : (run base steps).enclosing? p line = file.enclosing? line := by
    simp only [Index.enclosing?, hfile]
  obtain ⟨k, text, rfl⟩ : ∃ k text, file = StoryFile.read k text :=
    ⟨_, _, read_of_entry? base steps _ file hfile⟩
  have hpart : Partitioned (StoryFile.read k text).outline := partitioned_ofText text
  rw [hsearch]
  refine ⟨?_, ?_⟩
  · by_cases hline : 0 ≤ line ∧ line ≤ (StoryFile.read k text).outline.lineCount
    · obtain ⟨around, hfind, _⟩ := enclosing?_of_le _ hpart line hline.1 hline.2
      rw [hfind]
      simp only [reduceCtorEq, false_iff]
      omega
    · rw [enclosing?_of_outside _ hpart line hline]
      simp only [true_iff]
      omega
  · intro around hfind
    have h := encloses_of_enclosing? _ line around hfind
    refine ⟨h.file_eq, h.knot, h.stitch, knotStartedBy_of_encloses h,
      stitchStartedBy_of_encloses h, ?_⟩
    intro i knot j stitch hi hj
    exact positions_of_encloses h hi hj

/-- The place behind the last line belongs to the last stitch, and the first line to a stitch of the
knot without a name. -/
theorem enclosing_by_nearest_headers_ends :
    let base : Path := ⟨.root, ["w"]⟩
    let main : Path := ⟨.relative, ["a.ink"]⟩
    let text := "= loose\n=== k\n= s\n- go"
    let index := run base [.update main text]
    let file := StoryFile.read ⟨.root, ["w", "a.ink"]⟩ text
    index.get? main = some file ∧
    (∃ around, index.enclosing? main 4 = some around ∧
      KnotStartedBy around (some (⟨"k", false⟩, 1)) ∧ StitchStartedBy around (some ("s", 2))) ∧
    (∃ around, index.enclosing? main 0 = some around ∧ KnotStartedBy around none) ∧
    index.enclosing? main 5 = none := by
  intro base main text index file
  have hfile : index.get? main = some file := rfl
  refine ⟨hfile, ?_, ?_, ?_⟩
  · obtain ⟨hnone, hsome⟩ := enclosing_by_nearest_headers base _ main 4 file hfile
    obtain ⟨around, hfind⟩ := Option.ne_none_iff_exists'.mp
      fun h => absurd (hnone.mp h) (by decide +kernel)
    obtain ⟨_, _, _, hknot, hstitch, _⟩ := hsome around hfind
    have hlast : lastUpTo (declared knotHeader? file.text) (min 4 (file.outline.lineCount - 1)) =
        some (⟨"k", false⟩, 1) := by
      decide +kernel
    rw [hlast] at hknot
    have hinner : lastUpTo ((declared stitchHeader? file.text).filter fun found =>
        decide (around.knot.start ≤ found.2)) (min 4 (file.outline.lineCount - 1)) =
        some ("s", 2) := by
      rw [hknot.2.2]
      decide +kernel
    rw [hinner] at hstitch
    exact ⟨around, hfind, hknot, hstitch⟩
  · obtain ⟨hnone, hsome⟩ := enclosing_by_nearest_headers base _ main 0 file hfile
    obtain ⟨around, hfind⟩ := Option.ne_none_iff_exists'.mp
      fun h => absurd (hnone.mp h) (by decide +kernel)
    obtain ⟨_, _, _, hknot, _⟩ := hsome around hfind
    have hlast : lastUpTo (declared knotHeader? file.text) (min 0 (file.outline.lineCount - 1)) =
        none := by
      decide +kernel
    rw [hlast] at hknot
    exact ⟨around, hfind, hknot⟩
  · exact (enclosing_by_nearest_headers base _ main 5 file hfile).1.mpr (by decide +kernel)

end StoryAtlas.Proofs
