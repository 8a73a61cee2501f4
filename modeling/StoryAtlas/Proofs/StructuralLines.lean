import StoryAtlas.Proofs.LineGrammar
import StoryAtlas.Proofs.OutlineReading

/-!
# The structural lines of a text

An outline holds what the lines of its text declare and nothing else. The knots with a name are the
knot headers, the stitches with a name are the stitch headers, and the labels are the label lines,
each with its line number and each under the knot and the stitch whose ranges contain the line.
-/

namespace StoryAtlas.Proofs
open StoryAtlas.Story

/-- What `read?` finds in the lines of a text, each with the number of its line. -/
def declared {γ : Type} (read? : List Char → Option γ) (text : String) : List (γ × Int) :=
  declarationsFrom (fun line : String => read? line.toList) 0 (Text.lines text)

/-- The knots with a name, as the headers that declare them. -/
def namedKnots (knots : List Knot) : List (KnotHeader × Int) :=
  knots.filterMap fun knot => knot.name.map fun name => (⟨name, knot.isFunction⟩, knot.start)

/-- The stitches of a knot that have a name, as the headers that declare them. -/
def namedStitches (knot : Knot) : List (String × Int) :=
  knot.stitches.filterMap fun stitch => stitch.name.map fun name => (name, stitch.start)

/-- The labels of a stitch with their lines. -/
def labelLines (stitch : Stitch) : List (String × Int) :=
  stitch.labels.map fun label => (label.name, label.line)

lemma declared_eq {γ : Type} (read? : List Char → Option γ) (text : String) :
    declared read? text = declarationsFrom read? 0 (Text.charLines text.toList) := by
  unfold declared Text.lines
  rw [declarationsFrom_map]
  simp only [String.toList_ofList]

/-- A knot header is never a stitch header: behind the blanks it has more than one equals sign. -/
lemma stitchHeader?_of_knotHeader? (line : List Char) (header : KnotHeader)
    (h : knotHeader? line = some header) : stitchHeader? line = none := by
  unfold knotHeader? at h
  cases hafter : after? ['=', '=', '='] (Text.skipBlanks line) with
  | none => simp [hafter] at h
  | some rest =>
    have hskip := (after?_eq_some_iff _ _ _).mp hafter
    simp [stitchHeader?, hskip]

/-! ### Knots -/

lemma namedKnots_map_spans (all : List (Span (List Char) KnotHeader)) :
    namedKnots (all.map knotOfSpan) =
      all.filterMap fun span =>
        span.block.header.map fun header => (header, (span.start : Int)) := by
  unfold namedKnots
  rw [List.filterMap_map]
  congr 1
  funext span
  cases hheader : span.block.header <;> simp [knotOfSpan, readKnot, hheader]

theorem namedKnots_ofLines (lines : List (List Char)) :
    namedKnots (Outline.ofLines lines).knots = declarationsFrom knotHeader? 0 lines := by
  have hheaded := (wellCut_blocks knotHeader? lines).headed
  rw [knots_ofLines_eq_map, namedKnots_map_spans, headers_spans knotHeader? _ _ _ hheaded,
    Block.flatMap_lines_blocks]

lemma name_knotOfSpan_eq_none_iff (span : Span (List Char) KnotHeader) :
    (knotOfSpan span).name = none ↔ span.block.header = none := by
  simp [knotOfSpan, readKnot]

lemma tail_spans_block {α β : Type} (stop start : Nat) (blocks : List (Block α β)) (span : Span α β)
    (h : span ∈ (spans stop start blocks).tail) : span.block ∈ blocks.tail := by
  rw [← map_block_spans stop start blocks, ← List.map_tail]
  exact List.mem_map_of_mem h

lemma name_of_mem_tail_knots (lines : List (List Char)) (knot : Knot)
    (h : knot ∈ (Outline.ofLines lines).knots.tail) : knot.name ≠ none := by
  rw [knots_ofLines_eq_map, ← List.map_tail] at h
  obtain ⟨span, hspan, rfl⟩ := List.mem_map.mp h
  rw [Ne, name_knotOfSpan_eq_none_iff]
  exact (wellCut_blocks knotHeader? lines).tail _ (tail_spans_block _ _ _ _ hspan)

/-- A knot without a name stands for a first line that is no header. -/
lemma exists_unnamed_knot_iff (line : List Char) (lines : List (List Char)) :
    (∃ knot ∈ (Outline.ofLines (line :: lines)).knots, knot.name = none) ↔
      knotHeader? line = none := by
  have htail := name_of_mem_tail_knots (line :: lines)
  obtain ⟨more, rest, hblocks⟩ := blocks_cons_eq knotHeader? line lines
  obtain ⟨stop, others, hspans⟩ := spans_cons_eq ((line :: lines).length + 1) 0
    (⟨knotHeader? line, line :: more⟩ : Block (List Char) KnotHeader) rest
  rw [knots_ofLines_eq_map, hblocks, hspans] at htail ⊢
  constructor
  · rintro ⟨knot, hknot, hname⟩
    rcases List.mem_cons.mp hknot with rfl | hmem
    · exact (name_knotOfSpan_eq_none_iff _).mp hname
    · exact absurd hname (htail knot hmem)
  · intro hheader
    exact ⟨_, List.mem_cons_self, (name_knotOfSpan_eq_none_iff _).mpr hheader⟩

/-! ### Stitches and labels -/

lemma namedStitches_knotOfSpan (span : Span (List Char) KnotHeader) :
    namedStitches (knotOfSpan span) =
      declarationsFrom stitchHeader? span.start span.block.lines := by
  have hheaded := (wellCut_blocks stitchHeader? span.block.lines).headed
  have hspans := headers_spans stitchHeader? span.stop span.start _ hheaded
  rw [Block.flatMap_lines_blocks] at hspans
  simp only [namedStitches, knotOfSpan, readKnot, readStitches_eq_map, List.filterMap_map]
  exact hspans

lemma labelLines_stitchOfSpan (span : Span (List Char) String) :
    labelLines (stitchOfSpan span) = declarationsFrom label? span.start span.block.lines := by
  simp only [labelLines, stitchOfSpan, labelsFrom_eq_map, List.map_map]
  exact List.map_id _

lemma labelLines_knotOfSpan (span : Span (List Char) KnotHeader) :
    (knotOfSpan span).stitches.flatMap labelLines =
      declarationsFrom label? span.start span.block.lines := by
  have hspans := declarationsFrom_spans label? span.stop span.start
    (Block.blocks stitchHeader? span.block.lines)
  rw [Block.flatMap_lines_blocks] at hspans
  simp only [knotOfSpan, readKnot, readStitches_eq_map, List.flatMap_map, labelLines_stitchOfSpan]
  exact hspans

lemma name_of_mem_tail_stitches (span : Span (List Char) KnotHeader) (stitch : Stitch)
    (h : stitch ∈ (knotOfSpan span).stitches.tail) : stitch.name ≠ none := by
  have hstitches : (knotOfSpan span).stitches = (spans span.stop span.start
      (Block.blocks stitchHeader? span.block.lines)).map stitchOfSpan := readStitches_eq_map _ _ _
  rw [hstitches, ← List.map_tail] at h
  obtain ⟨place, hplace, rfl⟩ := List.mem_map.mp h
  exact (wellCut_blocks stitchHeader? span.block.lines).tail _ (tail_spans_block _ _ _ _ hplace)

/-- The header line of a knot starts a stitch without a name, since it is no stitch header. -/
lemma first_stitch_of_named (span : Span (List Char) KnotHeader)
    (hspan : Headed knotHeader? span.block) (hname : (knotOfSpan span).name ≠ none) :
    ∃ first, (knotOfSpan span).stitches.head? = some first ∧ first.name = none ∧
      first.start = (knotOfSpan span).start := by
  obtain ⟨line, rest, hlines, hheader, _⟩ := hspan
  rw [Ne, name_knotOfSpan_eq_none_iff, hheader] at hname
  obtain ⟨header, hknot⟩ := Option.ne_none_iff_exists'.mp hname
  have hstitch := stitchHeader?_of_knotHeader? line header hknot
  obtain ⟨more, others, hblocks⟩ := blocks_cons_eq stitchHeader? line rest
  obtain ⟨stop, places, hplaces⟩ := spans_cons_eq span.stop span.start
    (⟨stitchHeader? line, line :: more⟩ : Block (List Char) String) others
  have hstitches : (knotOfSpan span).stitches =
      (⟨span.start, stop, ⟨stitchHeader? line, line :: more⟩⟩ :: places).map stitchOfSpan := by
    rw [← hplaces, ← hblocks, ← hlines]
    exact readStitches_eq_map _ _ _
  rw [hstitches]
  exact ⟨_, rfl, hstitch, rfl⟩

theorem namedStitches_ofLines (lines : List (List Char)) :
    (Outline.ofLines lines).knots.flatMap namedStitches =
      declarationsFrom stitchHeader? 0 lines := by
  rw [knots_ofLines_eq_map, List.flatMap_map]
  simp only [namedStitches_knotOfSpan]
  rw [declarationsFrom_spans, Block.flatMap_lines_blocks]

theorem labelLines_ofLines (lines : List (List Char)) :
    ((Outline.ofLines lines).knots.flatMap Knot.stitches).flatMap labelLines =
      declarationsFrom label? 0 lines := by
  rw [List.flatMap_assoc, knots_ofLines_eq_map, List.flatMap_map]
  simp only [labelLines_knotOfSpan]
  rw [declarationsFrom_spans, Block.flatMap_lines_blocks]

/-! ### Owners -/

lemma namedStitches_eq_filter (outline : Outline) (h : Partitioned outline) (knot : Knot)
    (hknot : knot ∈ outline.knots) :
    namedStitches knot = (outline.knots.flatMap namedStitches).filter
      (fun found => knot.contains found.2) := by
  refine (tiles_filter_flatMap h.tiles namedStitches ?_ hknot).symm
  intro owner howner found hfound
  obtain ⟨stitch, hstitch, hread⟩ := List.mem_filterMap.mp hfound
  obtain ⟨name, _, rfl⟩ := Option.map_eq_some_iff.mp hread
  have hbounds := tiles_bounds (h.filled owner howner).tiles hstitch
  simp only
  omega

lemma labelLines_eq_filter (outline : Outline) (h : Partitioned outline) (stitch : Stitch)
    (hstitch : stitch ∈ outline.knots.flatMap Knot.stitches) :
    labelLines stitch = ((outline.knots.flatMap Knot.stitches).flatMap labelLines).filter
      (fun found => stitch.contains found.2) := by
  have htiles : Tiles Stitch.start Stitch.stop 0 (outline.lineCount + 1)
      (outline.knots.flatMap Knot.stitches) :=
    tiles_flatMap h.tiles Knot.stitches (fun knot hknot => (h.filled knot hknot).tiles)
  refine (tiles_filter_flatMap htiles labelLines ?_ hstitch).symm
  intro owner howner found hfound
  obtain ⟨knot, hknot, hmem⟩ := List.mem_flatMap.mp howner
  obtain ⟨label, hlabel, rfl⟩ := List.mem_map.mp hfound
  exact Stitch.contains_iff.mp ((h.filled knot hknot).labels owner hmem label hlabel)

/-- The knots, stitches and labels that are read from a text are its structural lines: each once,
in the order of the lines, and under the knot and the stitch whose ranges contain the line. Only a
first knot, and only a first stitch of a knot, can be without a header; the first stitch of a knot
with a name always is. -/
theorem read_holds_structural_lines (path : Path) (text : String) :
    let knots := (StoryFile.read path text).outline.knots
    namedKnots knots = declared knotHeader? text ∧
    ((∃ knot ∈ knots, knot.name = none) ↔
      ((Text.lines text).head?.bind fun line => knotHeader? line.toList) = none) ∧
    (∀ knot ∈ knots.tail, knot.name ≠ none) ∧
    knots.flatMap namedStitches = declared stitchHeader? text ∧
    (∀ knot ∈ knots, namedStitches knot =
      (declared stitchHeader? text).filter (fun found => knot.contains found.2)) ∧
    (∀ knot ∈ knots, ∀ stitch ∈ knot.stitches.tail, stitch.name ≠ none) ∧
    (∀ knot ∈ knots, knot.name ≠ none → ∃ first, knot.stitches.head? = some first ∧
      first.name = none ∧ first.start = knot.start) ∧
    (knots.flatMap Knot.stitches).flatMap labelLines = declared label? text ∧
    (∀ knot ∈ knots, ∀ stitch ∈ knot.stitches, labelLines stitch =
      (declared label? text).filter (fun found => stitch.contains found.2)) := by
  intro knots
  have hpart := partitioned_ofText text
  have hmap : knots = _ := knots_ofLines_eq_map (Text.charLines text.toList)
  have hstitches : knots.flatMap namedStitches = declared stitchHeader? text := by
    rw [declared_eq]
    exact namedStitches_ofLines (Text.charLines text.toList)
  have hlabels : (knots.flatMap Knot.stitches).flatMap labelLines = declared label? text := by
    rw [declared_eq]
    exact labelLines_ofLines (Text.charLines text.toList)
  refine ⟨?_, ?_, name_of_mem_tail_knots _, hstitches, ?_, ?_, ?_, hlabels, ?_⟩
  · rw [declared_eq]
    exact namedKnots_ofLines (Text.charLines text.toList)
  · obtain ⟨line, lines, hlines⟩ :=
      List.exists_cons_of_ne_nil (Text.charLines_ne_nil text.toList)
    have hhead : ((Text.lines text).head?.bind fun line => knotHeader? line.toList) =
        knotHeader? line := by
      simp [Text.lines, hlines]
    have hread : knots = (Outline.ofLines (line :: lines)).knots := by
      rw [← hlines]
      rfl
    rw [hhead, hread]
    exact exists_unnamed_knot_iff line lines
  · intro knot hknot
    rw [← hstitches]
    exact namedStitches_eq_filter _ hpart knot hknot
  · intro knot hknot
    rw [hmap] at hknot
    obtain ⟨span, _, rfl⟩ := List.mem_map.mp hknot
    exact name_of_mem_tail_stitches span
  · intro knot hknot
    rw [hmap] at hknot
    obtain ⟨span, hspan, rfl⟩ := List.mem_map.mp hknot
    exact first_stitch_of_named span
      ((wellCut_blocks knotHeader? _).headed _ (block_mem_of_mem_spans hspan))
  · intro knot hknot stitch hstitch
    rw [← hlabels]
    exact labelLines_eq_filter _ hpart stitch (List.mem_flatMap.mpr ⟨knot, hknot, hstitch⟩)

end StoryAtlas.Proofs
