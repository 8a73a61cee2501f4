import StoryAtlas.Index.Scope
import StoryAtlas.Proofs.StructuralLines

/-!
# The ranges around a line

The knot around a line reaches from the last knot header at or above the line to the next one below
it, and the stitch around a line likewise within its knot. Both ranges are told by the text alone.
The search for the knot and the stitch around a line finds them for every line of the file and for
the place behind its end, and nothing for any other line.
-/

namespace StoryAtlas.Proofs
open StoryAtlas.Story

/-- The lines from `start` up to `stop`, without `stop`. -/
structure LineRange where
  start : Int
  stop : Int
  deriving DecidableEq, Repr

namespace LineRange

/-- The line lies in the range. -/
def contains (range : LineRange) (line : Int) : Bool :=
  decide (range.start ≤ line) && decide (line < range.stop)

/-- What the marks leave of a range around a line: it is cut at the last mark that is not below the
line and at the first one that is. -/
def around (range : LineRange) (marks : List Int) (line : Int) : LineRange where
  start := (marks.filter fun mark => decide (mark ≤ line)).getLast?.getD range.start
  stop := (marks.find? fun mark => decide (line < mark)).getD range.stop

end LineRange

/-- The numbers of the lines that `read?` reads. -/
def markedLines {γ : Type} (read? : List Char → Option γ) (text : String) : List Int :=
  (declared read? text).map Prod.snd

/-- The range of the knot around a line of a text. -/
def knotRange (text : String) (line : Int) : LineRange :=
  LineRange.around ⟨0, (Text.lines text).length + 1⟩ (markedLines knotHeader? text) line

/-- The range of the stitch around a line of a text. -/
def stitchRange (text : String) (line : Int) : LineRange :=
  (knotRange text line).around
    ((markedLines stitchHeader? text).filter (knotRange text line).contains) line

/-! ### Marks in a tiling -/

lemma around_append (range : LineRange) (above below : List Int) (line : Int)
    (habove : ∀ mark ∈ above, mark ≤ line) (hbelow : ∀ mark ∈ below, line < mark) :
    range.around (above ++ below) line =
      ⟨above.getLast?.getD range.start, below.head?.getD range.stop⟩ := by
  have hkeep : (above ++ below).filter (fun mark => decide (mark ≤ line)) = above := by
    have hall : above.filter (fun mark => decide (mark ≤ line)) = above := by
      rw [List.filter_eq_self]
      simpa using habove
    have hnone : below.filter (fun mark => decide (mark ≤ line)) = [] := by
      rw [List.filter_eq_nil_iff]
      simpa using hbelow
    rw [List.filter_append, hall, hnone, List.append_nil]
  have hfind : (above ++ below).find? (fun mark => decide (line < mark)) = below.head? := by
    have hnone : above.find? (fun mark => decide (line < mark)) = none := by
      rw [List.find?_eq_none]
      simpa using habove
    have hhead : below.find? (fun mark => decide (line < mark)) = below.head? := by
      cases below with
      | nil => rfl
      | cons mark below => simp [hbelow mark List.mem_cons_self]
    rw [List.find?_append, hnone, Option.none_or, hhead]
  rw [LineRange.around, hkeep, hfind]

section Tiles

variable {α : Type} {start stop : α → Int} {first last : Int} {xs : List α}

lemma tiles_of_append {ys : List α} (h : Tiles start stop first last (xs ++ ys)) :
    ∃ middle, Tiles start stop first middle xs ∧ Tiles start stop middle last ys := by
  induction xs generalizing first with
  | nil => exact ⟨first, rfl, h⟩
  | cons x xs ih =>
    obtain ⟨hstart, hlt, hrest⟩ := h
    obtain ⟨middle, hxs, hys⟩ := ih hrest
    exact ⟨middle, ⟨hstart, hlt, hxs⟩, hys⟩

lemma tiles_exists (h : Tiles start stop first last xs) (line : Int) (hfirst : first ≤ line)
    (hlast : line < last) : ∃ x ∈ xs, start x ≤ line ∧ line < stop x := by
  have hcount := tiles_countP h line
  rw [if_pos ⟨hfirst, hlast⟩] at hcount
  obtain ⟨x, hx, hin⟩ := List.countP_pos_iff.mp (hcount ▸ Nat.one_pos)
  simp only [Bool.and_eq_true, decide_eq_true_eq] at hin
  exact ⟨x, hx, hin⟩

/-- The range of a tiling around a line is cut out by the starts of the ranges. The first range
needs no mark, since it starts where the tiling does. -/
theorem around_of_tiles (h : Tiles start stop first last xs) (marked : α → Bool)
    (htail : ∀ y ∈ xs.tail, marked y = true) {x : α} (hx : x ∈ xs) {line : Int}
    (hle : start x ≤ line) (hlt : line < stop x) :
    LineRange.around ⟨first, last⟩ ((xs.filter marked).map start) line = ⟨start x, stop x⟩ := by
  obtain ⟨before, after, rfl⟩ := List.append_of_mem hx
  obtain ⟨middle, hbefore, hmiddle, hbody, hafter⟩ := tiles_of_append h
  have hmarked : ∀ y ∈ after, marked y = true := by
    intro y hy
    apply htail
    cases before with
    | nil => exact hy
    | cons _ before => exact List.mem_append_right before (List.mem_cons_of_mem x hy)
  have hsplit : ((before ++ x :: after).filter marked).map start =
      ((before ++ [x]).filter marked).map start ++ after.map start := by
    rw [List.append_cons, List.filter_append, List.filter_eq_self.mpr hmarked, List.map_append]
  have habove : ∀ mark ∈ ((before ++ [x]).filter marked).map start, mark ≤ line := by
    intro mark hmark
    obtain ⟨y, hy, rfl⟩ := List.mem_map.mp hmark
    rcases List.mem_append.mp (List.mem_filter.mp hy).1 with hmem | hself
    · have hbounds := tiles_bounds hbefore hmem
      omega
    · obtain rfl : y = x := by simpa using hself
      exact hle
  have hbelow : ∀ mark ∈ after.map start, line < mark := by
    intro mark hmark
    obtain ⟨y, hy, rfl⟩ := List.mem_map.mp hmark
    have hbounds := tiles_bounds hafter hy
    omega
  have hstart : (((before ++ [x]).filter marked).map start).getLast?.getD first = start x := by
    by_cases hmark : marked x = true
    · simp [List.filter_append, hmark]
    · -- only the first range can be without a mark
      have hnil : before = [] := by
        cases before with
        | nil => rfl
        | cons y before => exact absurd (htail x (by simp)) hmark
      obtain rfl := hnil
      have hfirst : first = middle := hbefore
      simp [hmark, hfirst, hmiddle]
  have hstop : (after.map start).head?.getD last = stop x := by
    cases after with
    | nil => exact hafter.symm
    | cons y after => exact hafter.1
  rw [hsplit, around_append _ _ _ _ habove hbelow, hstart, hstop]

end Tiles

lemma map_snd_named {α β γ : Type} (name : α → Option β) (header : α → β → γ) (start : α → Int)
    (xs : List α) :
    (xs.filterMap fun x => (name x).map fun found => (header x found, start x)).map Prod.snd =
      (xs.filter fun x => (name x).isSome).map start := by
  induction xs with
  | nil => rfl
  | cons x xs ih => cases hname : name x <;> simp [hname, ih]

/-! ### Knots and stitches -/

section Outline

variable (text : String)

lemma declared_knots :
    declared knotHeader? text = namedKnots (Outline.ofText text).knots := by
  rw [declared_eq]
  exact (namedKnots_ofLines _).symm

lemma declared_stitches (knot : Knot) (hknot : knot ∈ (Outline.ofText text).knots) :
    namedStitches knot =
      (declared stitchHeader? text).filter fun found => knot.contains found.2 := by
  rw [namedStitches_eq_filter _ (partitioned_ofText text) knot hknot, declared_eq]
  exact congrArg _ (namedStitches_ofLines _)

lemma declared_labels (knot : Knot) (hknot : knot ∈ (Outline.ofText text).knots)
    (stitch : Stitch) (hstitch : stitch ∈ knot.stitches) :
    labelLines stitch = (declared label? text).filter fun found => stitch.contains found.2 := by
  have hmem : stitch ∈ (Outline.ofText text).knots.flatMap Knot.stitches :=
    List.mem_flatMap.mpr ⟨knot, hknot, hstitch⟩
  rw [labelLines_eq_filter _ (partitioned_ofText text) stitch hmem, declared_eq]
  exact congrArg _ (labelLines_ofLines _)

lemma lineCount_ofText : (Outline.ofText text).lineCount = (Text.lines text).length := by
  simp [Outline.ofText, Outline.ofLines, Text.lines]

lemma name_of_mem_tail_of_mem_knots (knot : Knot) (hknot : knot ∈ (Outline.ofText text).knots)
    (stitch : Stitch) (h : stitch ∈ knot.stitches.tail) : stitch.name ≠ none := by
  have hread : knot ∈ (Outline.ofLines (Text.charLines text.toList)).knots := hknot
  rw [knots_ofLines_eq_map] at hread
  obtain ⟨span, _, rfl⟩ := List.mem_map.mp hread
  exact name_of_mem_tail_stitches span stitch h

/-- The range of the knot that contains a line is told by the knot headers of the text. -/
theorem knotRange_eq (line : Int) (knot : Knot) (hknot : knot ∈ (Outline.ofText text).knots)
    (hline : knot.contains line = true) : knotRange text line = ⟨knot.start, knot.stop⟩ := by
  obtain ⟨hle, hlt⟩ := Knot.contains_iff.mp hline
  have hmarks : markedLines knotHeader? text =
      ((Outline.ofText text).knots.filter fun knot => knot.name.isSome).map Knot.start := by
    rw [markedLines, declared_knots]
    exact map_snd_named Knot.name (fun knot name => KnotHeader.mk name knot.isFunction)
      Knot.start _
  have htail : ∀ other ∈ (Outline.ofText text).knots.tail, other.name.isSome = true := by
    intro other hother
    exact Option.isSome_iff_ne_none.mpr (name_of_mem_tail_knots _ other hother)
  rw [knotRange, hmarks, ← lineCount_ofText]
  exact around_of_tiles (partitioned_ofText text).tiles _ htail hknot hle hlt

/-- The range of the stitch that contains a line is told by the stitch headers in its knot. -/
theorem stitchRange_eq (line : Int) (knot : Knot) (hknot : knot ∈ (Outline.ofText text).knots)
    (hline : knot.contains line = true) (stitch : Stitch) (hstitch : stitch ∈ knot.stitches)
    (hin : stitch.contains line = true) : stitchRange text line = ⟨stitch.start, stitch.stop⟩ := by
  obtain ⟨hle, hlt⟩ := Stitch.contains_iff.mp hin
  have hmarks : (markedLines stitchHeader? text).filter
      (LineRange.contains ⟨knot.start, knot.stop⟩) =
      (knot.stitches.filter fun stitch => stitch.name.isSome).map Stitch.start := by
    rw [markedLines, List.filter_map,
      ← map_snd_named Stitch.name (fun _ name => name) Stitch.start knot.stitches]
    exact congrArg (List.map Prod.snd) (declared_stitches text knot hknot).symm
  have htail : ∀ other ∈ knot.stitches.tail, other.name.isSome = true := by
    intro other hother
    exact Option.isSome_iff_ne_none.mpr (name_of_mem_tail_of_mem_knots text knot hknot other hother)
  rw [stitchRange, knotRange_eq text line knot hknot hline, hmarks]
  exact around_of_tiles ((partitioned_ofText text).filled knot hknot).tiles _ htail hstitch hle hlt

/-- The stitches of the knot around a line are the stitch headers in its range. -/
lemma namedStitches_around (line : Int) (knot : Knot)
    (hknot : knot ∈ (Outline.ofText text).knots) (hline : knot.contains line = true) :
    namedStitches knot = (declared stitchHeader? text).filter fun found =>
      (knotRange text line).contains found.2 := by
  rw [declared_stitches text knot hknot, knotRange_eq text line knot hknot hline]
  rfl

/-- The labels of the stitch around a line are the label lines in its range. -/
lemma labelLines_around (line : Int) (knot : Knot) (hknot : knot ∈ (Outline.ofText text).knots)
    (hline : knot.contains line = true) (stitch : Stitch) (hstitch : stitch ∈ knot.stitches)
    (hin : stitch.contains line = true) :
    labelLines stitch = (declared label? text).filter fun found =>
      (stitchRange text line).contains found.2 := by
  rw [declared_labels text knot hknot stitch hstitch,
    stitchRange_eq text line knot hknot hline stitch hstitch hin]
  rfl

end Outline

/-! ### The search -/

lemma mem_of_find?_zipIdx {α : Type} (xs : List α) (test : α → Bool) (x : α) (i : Nat)
    (h : xs.zipIdx.find? (fun found => test found.1) = some (x, i)) : x ∈ xs ∧ test x = true :=
  ⟨List.fst_mem_of_mem_zipIdx (List.mem_of_find?_eq_some h), by simpa using List.find?_some h⟩

lemma exists_find?_zipIdx {α : Type} (xs : List α) (test : α → Bool)
    (h : ∃ x ∈ xs, test x = true) :
    ∃ x i, xs.zipIdx.find? (fun found => test found.1) = some (x, i) := by
  obtain ⟨x, hx, htest⟩ := h
  cases hfind : xs.zipIdx.find? (fun found => test found.1) with
  | some found => exact ⟨found.1, found.2, rfl⟩
  | none =>
    obtain ⟨i, hi, hget⟩ := List.mem_iff_getElem.mp hx
    have hmem : (x, i) ∈ xs.zipIdx := by
      rw [List.mem_zipIdx_iff_getElem?, List.getElem?_eq_getElem hi, hget]
    exact absurd htest (List.find?_eq_none.mp hfind (x, i) hmem)

/-- A knot and a stitch stand at their positions in the file, and both contain the line. -/
structure Encloses (file : StoryFile) (line : Int) (around : Enclosing) : Prop where
  file_eq : around.file = file
  knot : file.outline.knots[around.knotIndex]? = some around.knot
  knot_contains : around.knot.contains line = true
  stitch : around.knot.stitches[around.stitchIndex]? = some around.stitch
  stitch_contains : around.stitch.contains line = true

lemma encloses_of_enclosing? (file : StoryFile) (line : Int) (around : Enclosing)
    (h : file.enclosing? line = some around) : Encloses file line around := by
  unfold StoryFile.enclosing? at h
  split at h
  · cases h
  next knot i hknot =>
    split at h
    · cases h
    next stitch j hstitch =>
      obtain rfl := Option.some.inj h
      refine ⟨rfl, ?_, ?_, ?_, ?_⟩
      · exact List.mem_zipIdx_iff_getElem?.mp (List.mem_of_find?_eq_some hknot)
      · simpa using List.find?_some hknot
      · exact List.mem_zipIdx_iff_getElem?.mp (List.mem_of_find?_eq_some hstitch)
      · simpa using List.find?_some hstitch

/-- A search from any line of a partitioned file, or from behind its end, finds the knot and the
stitch that contain the line. -/
theorem enclosing?_of_le (file : StoryFile) (h : Partitioned file.outline) (line : Int)
    (hfirst : 0 ≤ line) (hlast : line ≤ file.outline.lineCount) :
    ∃ around, file.enclosing? line = some around ∧ around.file = file ∧
      around.knot ∈ file.outline.knots ∧ around.knot.contains line = true ∧
      around.stitch ∈ around.knot.stitches ∧ around.stitch.contains line = true := by
  obtain ⟨knot, hknot, hin⟩ := tiles_exists h.tiles line hfirst (by omega)
  obtain ⟨knot, i, hfind⟩ := exists_find?_zipIdx file.outline.knots (fun knot => knot.contains line)
    ⟨knot, hknot, Knot.contains_iff.mpr hin⟩
  obtain ⟨hknot, hin⟩ := mem_of_find?_zipIdx _ (fun knot => knot.contains line) knot i hfind
  obtain ⟨hle, hlt⟩ := Knot.contains_iff.mp hin
  obtain ⟨stitch, hstitch, hin'⟩ := tiles_exists (h.filled knot hknot).tiles line hle hlt
  obtain ⟨stitch, j, hfind'⟩ := exists_find?_zipIdx knot.stitches
    (fun stitch => stitch.contains line) ⟨stitch, hstitch, Stitch.contains_iff.mpr hin'⟩
  obtain ⟨hstitch, hin'⟩ :=
    mem_of_find?_zipIdx _ (fun stitch => stitch.contains line) stitch j hfind'
  refine ⟨⟨file, i, j, knot, stitch⟩, ?_, rfl, hknot, hin, hstitch, hin'⟩
  simp only [StoryFile.enclosing?, hfind, hfind']

theorem enclosing?_of_outside (file : StoryFile) (h : Partitioned file.outline) (line : Int)
    (hline : ¬(0 ≤ line ∧ line ≤ file.outline.lineCount)) : file.enclosing? line = none := by
  have hfind : file.outline.knots.zipIdx.find? (fun found => found.1.contains line) = none := by
    rw [List.find?_eq_none]
    intro found hmem hin
    obtain ⟨hle, hlt⟩ := Knot.contains_iff.mp hin
    have hbounds := tiles_bounds h.tiles (List.fst_mem_of_mem_zipIdx hmem)
    omega
  simp only [StoryFile.enclosing?, hfind]

end StoryAtlas.Proofs
