import StoryAtlas.Proofs.HeaderBlocks
import StoryAtlas.Story.File

/-!
# Reading an outline

The outline that is read from a text partitions it: knots and stitches are placed blocks of lines,
and placed blocks tile. The outline also holds every structural line of the text once, in order,
and under the knot and the stitch whose ranges contain the line.
-/

namespace StoryAtlas.Proofs
open StoryAtlas.Story

/-- The stitch that a placed block of lines makes. -/
def stitchOfSpan (span : Span (List Char) String) : Stitch :=
  ⟨span.block.header, span.start, span.stop, labelsFrom span.start span.block.lines⟩

/-- The knot that a placed block of lines makes. -/
def knotOfSpan (span : Span (List Char) KnotHeader) : Knot :=
  readKnot span.start span.stop span.block

lemma placeStitches_eq_map (stop start : Nat) (blocks : List (Block (List Char) String)) :
    placeStitches stop start blocks = (spans stop start blocks).map stitchOfSpan := by
  induction blocks generalizing start with
  | nil => rfl
  | cons block rest ih =>
    cases rest with
    | nil => rfl
    | cons next rest =>
      rw [spans_cons_cons, List.map_cons, ← ih]
      rfl

lemma placeKnots_eq_map (stop start : Nat) (blocks : List (Block (List Char) KnotHeader)) :
    placeKnots stop start blocks = (spans stop start blocks).map knotOfSpan := by
  induction blocks generalizing start with
  | nil => rfl
  | cons block rest ih =>
    cases rest with
    | nil => rfl
    | cons next rest =>
      rw [spans_cons_cons, List.map_cons, ← ih]
      rfl

/-- The stitches of a knot as placed blocks. -/
lemma readStitches_eq_map (start stop : Nat) (lines : List (List Char)) :
    readStitches start stop lines =
      (spans stop start (Block.blocks stitchHeader? lines)).map stitchOfSpan :=
  placeStitches_eq_map stop start _

/-- The knots of an outline as placed blocks. -/
lemma knots_ofLines_eq_map (lines : List (List Char)) :
    (Outline.ofLines lines).knots =
      (spans (lines.length + 1) 0 (Block.blocks knotHeader? lines)).map knotOfSpan :=
  placeKnots_eq_map (lines.length + 1) 0 _

lemma labelsFrom_eq_map (start : Nat) (lines : List (List Char)) :
    labelsFrom start lines =
      (declarationsFrom label? start lines).map fun found => ⟨found.1, found.2⟩ := by
  simp only [labelsFrom, declarationsFrom, List.map_filterMap, Option.map_map]
  rfl

/-! ### The partition -/

lemma readStitches_ne_nil (start stop : Nat) (lines : List (List Char)) (h : lines ≠ []) :
    readStitches start stop lines ≠ [] := by
  rw [readStitches_eq_map]
  intro hnil
  have hblocks := blocks_ne_nil stitchHeader? lines h
  exact spans_ne_nil stop start _ hblocks (List.map_eq_nil_iff.mp hnil)

lemma readStitches_tiles (start stop : Nat) (lines : List (List Char)) (h : lines ≠ [])
    (hstop : start + lines.length ≤ stop) :
    Tiles Stitch.start Stitch.stop start stop (readStitches start stop lines) := by
  rw [readStitches_eq_map, tiles_map]
  apply spans_tiles
  · exact blocks_ne_nil stitchHeader? lines h
  · exact lines_ne_nil_of_mem_blocks stitchHeader? lines
  · rwa [Block.flatMap_lines_blocks]

lemma readStitches_labels (start stop : Nat) (lines : List (List Char))
    (hstop : start + lines.length ≤ stop) (stitch : Stitch)
    (hstitch : stitch ∈ readStitches start stop lines) (label : Label)
    (hlabel : label ∈ stitch.labels) : stitch.contains label.line = true := by
  rw [readStitches_eq_map] at hstitch
  obtain ⟨span, hspan, rfl⟩ := List.mem_map.mp hstitch
  have hfits := length_le_of_mem_spans (by rwa [Block.flatMap_lines_blocks]) hspan
  have hlabel' : label ∈ labelsFrom span.start span.block.lines := hlabel
  rw [labelsFrom_eq_map] at hlabel'
  obtain ⟨found, hfound, rfl⟩ := List.mem_map.mp hlabel'
  have hline := line_of_mem_declarationsFrom hfound
  rw [Stitch.contains_iff]
  simp only [stitchOfSpan]
  omega

/-- A knot that is given room for its lines is filled by its stitches. -/
lemma filled_readKnot (start stop : Nat) (block : Block (List Char) KnotHeader)
    (h : block.lines ≠ []) (hstop : start + block.lines.length ≤ stop) :
    Filled (readKnot start stop block) where
  nonempty := readStitches_ne_nil start stop block.lines h
  tiles := readStitches_tiles start stop block.lines h hstop
  labels := readStitches_labels start stop block.lines hstop

theorem partitioned_ofLines (lines : List (List Char)) (h : lines ≠ []) :
    Partitioned (Outline.ofLines lines) := by
  have hblocks := blocks_ne_nil knotHeader? lines h
  have hroom : 0 + ((Block.blocks knotHeader? lines).flatMap Block.lines).length ≤
      lines.length + 1 := by
    rw [Block.flatMap_lines_blocks]
    omega
  refine ⟨?_, ?_, ?_⟩
  · rw [knots_ofLines_eq_map]
    intro hnil
    exact spans_ne_nil (lines.length + 1) 0 _ hblocks (List.map_eq_nil_iff.mp hnil)
  · rw [knots_ofLines_eq_map, tiles_map]
    exact spans_tiles (lines.length + 1) 0 _ hblocks
      (lines_ne_nil_of_mem_blocks knotHeader? lines) hroom
  · intro knot hknot
    rw [knots_ofLines_eq_map] at hknot
    obtain ⟨span, hspan, rfl⟩ := List.mem_map.mp hknot
    exact filled_readKnot span.start span.stop span.block
      (lines_ne_nil_of_mem_blocks knotHeader? lines _ (block_mem_of_mem_spans hspan))
      (length_le_of_mem_spans hroom hspan)

/-- Every outline that is read from a text partitions it. -/
theorem partitioned_ofText (text : String) : Partitioned (Outline.ofText text) :=
  partitioned_ofLines _ (Text.charLines_ne_nil text.toList)

/-- The file that is read from any text passes the partition check: each of its lines, and the
place behind the last one, lies in exactly one stitch and its knot, and no other line lies in any.
Knots and stitches are listed in the order of their lines and none is empty. -/
theorem read_partitions_lines (path : Path) (text : String) :
    let outline := (StoryFile.read path text).outline
    outline.check = .ok () ∧
    outline.lineCount = (Text.lines text).length ∧
    (∀ line : Int, (ownedStitches outline).countP (ownedContains line) =
      if 0 ≤ line ∧ line ≤ outline.lineCount then 1 else 0) ∧
    outline.knots.Pairwise (fun knot next => knot.stop ≤ next.start) ∧
    (∀ knot ∈ outline.knots, knot.start < knot.stop ∧
      knot.stitches.Pairwise (fun stitch next => stitch.stop ≤ next.start) ∧
      ∀ stitch ∈ knot.stitches, knot.start ≤ stitch.start ∧ stitch.start < stitch.stop ∧
        stitch.stop ≤ knot.stop ∧
        ∀ label ∈ stitch.labels, stitch.start ≤ label.line ∧ label.line < stitch.stop) ∧
    (∃ knot stitch, outline.knots.getLast? = some knot ∧ knot.stitches.getLast? = some stitch ∧
      knot.stop = outline.lineCount + 1 ∧ stitch.stop = outline.lineCount + 1) := by
  intro outline
  have hpart : Partitioned outline := partitioned_ofText text
  refine ⟨(check_eq_ok_iff outline).mpr hpart, ?_, partitioned_countP outline hpart,
    tiles_pairwise hpart.tiles, ?_, ?_⟩
  · simp [outline, StoryFile.read, Outline.ofText, Outline.ofLines, Text.lines]
  · intro knot hknot
    have hfilled := hpart.filled knot hknot
    refine ⟨(tiles_bounds hpart.tiles hknot).2.1, tiles_pairwise hfilled.tiles, ?_⟩
    intro stitch hstitch
    obtain ⟨hfirst, hlt, hlast⟩ := tiles_bounds hfilled.tiles hstitch
    exact ⟨hfirst, hlt, hlast,
      fun label hlabel => Stitch.contains_iff.mp (hfilled.labels stitch hstitch label hlabel)⟩
  · have hlast := List.getLast?_eq_some_getLast hpart.nonempty
    have hfilled := hpart.filled _ (List.mem_of_getLast? hlast)
    have hstitch := List.getLast?_eq_some_getLast hfilled.nonempty
    have hstop := tiles_getLast hpart.tiles hlast
    exact ⟨_, _, hlast, hstitch, hstop, (tiles_getLast hfilled.tiles hstitch).trans hstop⟩

end StoryAtlas.Proofs
