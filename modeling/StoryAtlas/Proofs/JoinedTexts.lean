import Mathlib.Data.List.ModifyLast
import StoryAtlas.Proofs.OutlineReading

/-!
# Joined texts

Two texts with a line feed between them are read as the first and then the second, as long as the
second opens with a knot header: no block of lines reaches over the seam. The knots of the second
text move down by the length of the first, and the last knot of the first loses the place behind
its last line, which is now a line of the second.
-/

namespace StoryAtlas.Proofs
open StoryAtlas.Story

variable {α β γ : Type}

/-! ### The lines of both texts -/

lemma charLines_join (t₁ t₂ : String) :
    Text.charLines (t₁ ++ "\n" ++ t₂).toList =
      Text.charLines t₁.toList ++ Text.charLines t₂.toList := by
  have hchars : (t₁ ++ "\n" ++ t₂).toList = t₁.toList ++ '\n' :: t₂.toList := by
    simp [String.toList_append]
  rw [hchars, Text.charLines, Text.split_append, List.map_append]
  rfl

/-! ### The blocks of both texts -/

lemma cons_append_blocks (header? : α → Option β) (line next : α) (more : List α)
    (blocks : List (Block α β)) (h : (header? next).isSome) :
    Block.cons header? line (blocks ++ Block.blocks header? (next :: more)) =
      Block.cons header? line blocks ++ Block.blocks header? (next :: more) := by
  obtain ⟨header, hheader⟩ := Option.isSome_iff_exists.mp h
  obtain ⟨lines, rest, hblocks⟩ := blocks_cons_eq header? next more
  rw [hblocks, hheader]
  rcases blocks with _ | ⟨⟨_ | first, ls⟩, bs⟩ <;> rfl

lemma blocks_append (header? : α → Option β) (lines : List α) (next : α) (more : List α)
    (h : (header? next).isSome) :
    Block.blocks header? (lines ++ next :: more) =
      Block.blocks header? lines ++ Block.blocks header? (next :: more) := by
  induction lines with
  | nil => rfl
  | cons line lines ih =>
    rw [List.cons_append, Block.blocks_cons, ih, cons_append_blocks header? line next more _ h,
      Block.blocks_cons header? line]

/-- Blocks that others follow end where their lines end. -/
lemma spans_append (stop start : Nat) (blocks more : List (Block α β)) (h : more ≠ []) :
    spans stop start (blocks ++ more) =
      spans (start + (blocks.flatMap Block.lines).length) start blocks ++
        spans stop (start + (blocks.flatMap Block.lines).length) more := by
  obtain ⟨next, rest, rfl⟩ := List.exists_cons_of_ne_nil h
  induction blocks generalizing start with
  | nil => rfl
  | cons block blocks ih =>
    have hlen : start + ((block :: blocks).flatMap Block.lines).length =
        start + block.lines.length + (blocks.flatMap Block.lines).length := by
      rw [List.flatMap_cons, List.length_append]
      omega
    have hrest := ih (start + block.lines.length)
    rw [hlen]
    cases blocks with
    | nil => rfl
    | cons second blocks =>
      rw [List.cons_append] at hrest ⊢
      rw [List.cons_append, spans_cons_cons, hrest, spans_cons_cons]
      rfl

/-! ### Moving a range and closing it earlier -/

/-- The label `n` lines further down. -/
def shiftLabel (n : Int) (label : Label) : Label :=
  { label with line := label.line + n }

/-- The stitch `n` lines further down. -/
def shiftStitch (n : Int) (stitch : Stitch) : Stitch where
  name := stitch.name
  start := stitch.start + n
  stop := stitch.stop + n
  labels := stitch.labels.map (shiftLabel n)

/-- The knot `n` lines further down. -/
def shiftKnot (n : Int) (knot : Knot) : Knot where
  name := knot.name
  start := knot.start + n
  stop := knot.stop + n
  isFunction := knot.isFunction
  stitches := knot.stitches.map (shiftStitch n)

/-- The stitch with another end. -/
def endStitch (stop : Int) (stitch : Stitch) : Stitch :=
  { stitch with stop := stop }

/-- The knot with another end, which is that of its last stitch too. -/
def endKnot (stop : Int) (knot : Knot) : Knot :=
  { knot with stop := stop, stitches := knot.stitches.modifyLast (endStitch stop) }

def shiftSpan (n : Nat) (span : Span α β) : Span α β :=
  { span with start := span.start + n, stop := span.stop + n }

def endSpan (stop : Nat) (span : Span α β) : Span α β :=
  { span with stop := stop }

lemma spans_shift (n stop start : Nat) (blocks : List (Block α β)) :
    spans (stop + n) (start + n) blocks = (spans stop start blocks).map (shiftSpan n) := by
  induction blocks generalizing start with
  | nil => rfl
  | cons block rest ih =>
    have hstart : start + n + block.lines.length = start + block.lines.length + n := by omega
    cases rest with
    | nil => rfl
    | cons next rest =>
      rw [spans_cons_cons, spans_cons_cons, List.map_cons, hstart, ih]
      rfl

lemma modifyLast_cons (f : α → α) (x : α) (xs : List α) (h : xs ≠ []) :
    (x :: xs).modifyLast f = x :: xs.modifyLast f :=
  List.modifyLast_append_of_right_ne_nil f [x] xs h

lemma spans_end (stop stop' start : Nat) (blocks : List (Block α β)) :
    spans stop' start blocks = (spans stop start blocks).modifyLast (endSpan stop') := by
  induction blocks generalizing start with
  | nil => rfl
  | cons block rest ih =>
    cases rest with
    | nil => rfl
    | cons next rest =>
      have hne := spans_ne_nil stop (start + block.lines.length) (next :: rest) (by simp)
      rw [spans_cons_cons, spans_cons_cons, modifyLast_cons _ _ _ hne, ih]

lemma map_modifyLast (f : α → α) (f' : β → β) (g : α → β) (h : ∀ x, g (f x) = f' (g x))
    (xs : List α) : (xs.modifyLast f).map g = (xs.map g).modifyLast f' := by
  induction xs with
  | nil => rfl
  | cons x xs ih =>
    cases xs with
    | nil => exact congrArg (fun y => [y]) (h x)
    | cons next rest =>
      rw [modifyLast_cons f x _ (by simp), List.map_cons, ih]
      exact (modifyLast_cons f' (g x) _ (by simp)).symm

lemma declarationsFrom_shift (read? : α → Option γ) (n start : Nat) (lines : List α) :
    declarationsFrom read? (start + n) lines =
      (declarationsFrom read? start lines).map fun found => (found.1, found.2 + (n : Int)) := by
  induction lines generalizing start with
  | nil => rfl
  | cons line lines ih =>
    have hstart : start + n + 1 = start + 1 + n := by omega
    rw [declarationsFrom_cons, declarationsFrom_cons, List.map_append, hstart, ih]
    cases read? line with
    | none => rfl
    | some found => simp

lemma stitchOfSpan_shift (n : Nat) (span : Span (List Char) String) :
    stitchOfSpan (shiftSpan n span) = shiftStitch n (stitchOfSpan span) := by
  have hlabels : labelsFrom (span.start + n) span.block.lines =
      (labelsFrom span.start span.block.lines).map (shiftLabel n) := by
    rw [labelsFrom_eq_map, labelsFrom_eq_map, declarationsFrom_shift, List.map_map, List.map_map]
    rfl
  simp only [stitchOfSpan, shiftSpan, shiftStitch, hlabels, Int.natCast_add]

lemma knotOfSpan_shift (n : Nat) (span : Span (List Char) KnotHeader) :
    knotOfSpan (shiftSpan n span) = shiftKnot n (knotOfSpan span) := by
  have hstitches : readStitches (span.start + n) (span.stop + n) span.block.lines =
      (readStitches span.start span.stop span.block.lines).map (shiftStitch n) := by
    rw [readStitches_eq_map, readStitches_eq_map, spans_shift, List.map_map, List.map_map]
    apply List.map_congr_left
    intro inner _
    exact stitchOfSpan_shift n inner
  simp only [knotOfSpan, readKnot, shiftSpan, shiftKnot, hstitches, Int.natCast_add]

lemma knotOfSpan_end (stop : Nat) (span : Span (List Char) KnotHeader) :
    knotOfSpan (endSpan stop span) = endKnot stop (knotOfSpan span) := by
  have hstitches : readStitches span.start stop span.block.lines =
      (readStitches span.start span.stop span.block.lines).modifyLast (endStitch stop) := by
    rw [readStitches_eq_map, readStitches_eq_map, spans_end span.stop stop]
    apply map_modifyLast
    intro inner
    rfl
  simp only [knotOfSpan, readKnot, endSpan, endKnot, hstitches]

/-! ### The outline and the includes of both texts -/

theorem knots_ofLines_append (lines : List (List Char)) (next : List Char)
    (more : List (List Char)) (h : (knotHeader? next).isSome) :
    (Outline.ofLines (lines ++ next :: more)).knots =
      (Outline.ofLines lines).knots.modifyLast (endKnot lines.length) ++
        (Outline.ofLines (next :: more)).knots.map (shiftKnot lines.length) := by
  have hmore := blocks_ne_nil knotHeader? (next :: more) (by simp)
  have hstop : (lines ++ next :: more).length + 1 = (next :: more).length + 1 + lines.length := by
    rw [List.length_append]
    omega
  have hshift := spans_shift lines.length ((next :: more).length + 1) 0
    (Block.blocks knotHeader? (next :: more))
  rw [knots_ofLines_eq_map, knots_ofLines_eq_map, knots_ofLines_eq_map,
    blocks_append knotHeader? lines next more h, spans_append _ _ _ _ hmore,
    Block.flatMap_lines_blocks, List.map_append, hstop, hshift]
  congr 1
  · rw [Nat.zero_add, spans_end (lines.length + 1) lines.length]
    exact map_modifyLast _ _ _ (knotOfSpan_end lines.length) _
  · rw [List.map_map, List.map_map]
    apply List.map_congr_left
    intro span _
    exact knotOfSpan_shift lines.length span

lemma eraseDups_filter [BEq α] [LawfulBEq α] (p : α → Bool) (xs : List α) :
    (xs.filter p).eraseDups = xs.eraseDups.filter p := by
  -- the tail is filtered before its duplicates are dropped, so the induction is on the length
  induction hn : xs.length using Nat.strongRecOn generalizing xs with
  | _ n ih =>
    cases xs with
    | nil => rfl
    | cons x rest =>
      have hlt : (rest.filter fun y => !y == x).length < n := by
        have := List.length_filter_le (fun y => !y == x) rest
        rw [List.length_cons] at hn
        omega
      have hrest := ih _ hlt _ rfl
      rw [List.eraseDups_cons]
      cases hx : p x with
      | true =>
        rw [List.filter_cons_of_pos hx, List.filter_cons_of_pos hx, List.eraseDups_cons,
          List.filter_filter, ← hrest, List.filter_filter]
        simp only [Bool.and_comm]
      | false =>
        -- a dropped element drops all its copies
        have hsame : (rest.filter fun y => !y == x).filter p = rest.filter p := by
          rw [List.filter_filter]
          apply List.filter_congr
          intro y _
          by_cases hy : y = x
          · simp [hy, hx]
          · simp [hy]
        rw [List.filter_cons_of_neg (by simp [hx]), List.filter_cons_of_neg (by simp [hx]),
          ← hrest, hsame]

lemma eraseDups_append_filter [DecidableEq α] (xs ys : List α) :
    (xs ++ ys).eraseDups = xs.eraseDups ++ ys.eraseDups.filter fun y => y ∉ xs.eraseDups := by
  have hnew : ys.removeAll xs = ys.filter fun y => y ∉ xs.eraseDups := by
    apply List.filter_congr
    intro y _
    simp
  rw [List.eraseDups_append, hnew, eraseDups_filter]

lemma includesOf_append (path : Path) (lines more : List (List Char)) :
    includesOf path (lines ++ more) = includesOf path lines ++
      (includesOf path more).filter fun target => target ∉ includesOf path lines := by
  rw [includesOf, includeNames, List.filterMap_append, List.map_append]
  exact eraseDups_append_filter _ _

/-- A text that is followed by a line feed and a text with a knot header in its first line is read
as the two one after the other. -/
theorem read_joined_at_knot (path : Path) (t₁ t₂ : String)
    (h : ∃ line, (Text.lines t₂).head? = some line ∧ (knotHeader? line.toList).isSome) :
    let first := StoryFile.read path t₁
    let second := StoryFile.read path t₂
    let joined := StoryFile.read path (t₁ ++ "\n" ++ t₂)
    let n := (Text.lines t₁).length
    joined.outline.lineCount = first.outline.lineCount + second.outline.lineCount ∧
    (∃ knot stitch, first.outline.knots.getLast? = some knot ∧
      knot.stitches.getLast? = some stitch ∧ knot.stop = n + 1 ∧ stitch.stop = n + 1) ∧
    joined.outline.knots = first.outline.knots.modifyLast (endKnot n) ++
      second.outline.knots.map (shiftKnot n) ∧
    joined.includes = first.includes ++
      second.includes.filter fun target => target ∉ first.includes := by
  intro first second joined n
  have hlines := charLines_join t₁ t₂
  have hn : n = (Text.charLines t₁.toList).length := List.length_map _
  obtain ⟨next, more, hsecond⟩ := List.exists_cons_of_ne_nil (Text.charLines_ne_nil t₂.toList)
  have hheader : (knotHeader? next).isSome := by
    obtain ⟨line, hhead, hline⟩ := h
    rw [Text.lines, hsecond] at hhead
    obtain rfl : String.ofList next = line := by simpa using hhead
    simpa using hline
  refine ⟨?_, ?_, ?_, ?_⟩
  · change ((Text.charLines (t₁ ++ "\n" ++ t₂).toList).length : Int) = _
    rw [hlines, List.length_append, Int.natCast_add]
    rfl
  · have hpart : Partitioned first.outline := partitioned_ofText t₁
    have hknot := List.getLast?_eq_some_getLast hpart.nonempty
    have hfilled := hpart.filled _ (List.mem_of_getLast? hknot)
    have hstitch := List.getLast?_eq_some_getLast hfilled.nonempty
    have hstop := tiles_getLast hpart.tiles hknot
    have hcount : first.outline.lineCount = n := by rw [hn]; rfl
    rw [hcount] at hstop
    exact ⟨_, _, hknot, hstitch, hstop, (tiles_getLast hfilled.tiles hstitch).trans hstop⟩
  · change (Outline.ofLines (Text.charLines (t₁ ++ "\n" ++ t₂).toList)).knots =
      (Outline.ofLines (Text.charLines t₁.toList)).knots.modifyLast (endKnot n) ++
        (Outline.ofLines (Text.charLines t₂.toList)).knots.map (shiftKnot n)
    rw [hlines, hsecond, hn]
    exact knots_ofLines_append _ next more hheader
  · change includesOf path (Text.charLines (t₁ ++ "\n" ++ t₂).toList) = _
    rw [hlines]
    exact includesOf_append path _ _

/-- The seam cuts the stitch `b`, and the second text repeats an include. -/
theorem read_joined_at_knot_story :
    let path : Path := ⟨.root, ["main.ink"]⟩
    let t₁ := "INCLUDE a.ink\n=== one\n= b\r"
    let t₂ := "=== two\n- (here)\nINCLUDE b.ink\nINCLUDE a.ink"
    (StoryFile.read path (t₁ ++ "\n" ++ t₂)).outline.knots =
      [⟨none, 0, 1, false, [⟨none, 0, 1, []⟩]⟩,
       ⟨some "one", 1, 3, false, [⟨none, 1, 2, []⟩, ⟨some "b", 2, 3, []⟩]⟩,
       ⟨some "two", 3, 8, false, [⟨none, 3, 8, [⟨"here", 4⟩]⟩]⟩] ∧
    (StoryFile.read path (t₁ ++ "\n" ++ t₂)).includes =
      [⟨.root, ["a.ink"]⟩, ⟨.root, ["b.ink"]⟩] := by
  intro path t₁ t₂
  have h := read_joined_at_knot path t₁ t₂ ⟨"=== two", by decide +kernel, by decide +kernel⟩
  rw [h.2.2.1, h.2.2.2]
  decide +kernel

end StoryAtlas.Proofs
