import StoryAtlas.Proofs.RangeTiling
import StoryAtlas.Story.Reader

/-!
# Blocks under headers

What the cutting of a list into blocks guarantees, and where the blocks lie in the list. Every block
starts with the line that its header was read from, no other line of it is a header, and only the
first block can be without a header. Placed one after the other the blocks tile the list, so that
what is read from the lines of each block is together what is read from the whole list.
-/

namespace StoryAtlas.Proofs
open StoryAtlas.Story

variable {α β γ : Type}

/-- The header of a block was read from its first line, and no other line of it is a header. -/
def Headed (header? : α → Option β) (block : Block α β) : Prop :=
  ∃ line rest, block.lines = line :: rest ∧ block.header = header? line ∧
    ∀ other ∈ rest, header? other = none

/-- All blocks are headed, and only the first can be without a header. -/
structure WellCut (header? : α → Option β) (blocks : List (Block α β)) : Prop where
  headed : ∀ block ∈ blocks, Headed header? block
  tail : ∀ block ∈ blocks.tail, block.header ≠ none

lemma headed_singleton (header? : α → Option β) (line : α) :
    Headed header? ⟨header? line, [line]⟩ :=
  ⟨line, [], rfl, rfl, by simp⟩

lemma headed_extend (header? : α → Option β) (line : α) (lines : List α)
    (h : Headed header? ⟨none, lines⟩) : Headed header? ⟨header? line, line :: lines⟩ := by
  obtain ⟨first, rest, hlines, hheader, hrest⟩ := h
  refine ⟨line, lines, rfl, rfl, ?_⟩
  have hlines' : lines = first :: rest := hlines
  rw [hlines']
  exact List.forall_mem_cons.mpr ⟨hheader.symm, hrest⟩

lemma wellCut_cons (header? : α → Option β) (line : α) (blocks : List (Block α β))
    (h : WellCut header? blocks) : WellCut header? (Block.cons header? line blocks) := by
  obtain ⟨hheaded, htail⟩ := h
  rcases blocks with _ | ⟨⟨_ | header, lines⟩, rest⟩
  · refine ⟨?_, by simp [Block.cons]⟩
    intro block hblock
    obtain rfl : block = ⟨header? line, [line]⟩ := by simpa [Block.cons] using hblock
    exact headed_singleton header? line
  · obtain ⟨hfirst, hrest⟩ := List.forall_mem_cons.mp hheaded
    exact ⟨List.forall_mem_cons.mpr ⟨headed_extend header? line lines hfirst, hrest⟩, htail⟩
  · refine ⟨List.forall_mem_cons.mpr ⟨headed_singleton header? line, hheaded⟩, ?_⟩
    exact List.forall_mem_cons.mpr ⟨by simp, htail⟩

theorem wellCut_blocks (header? : α → Option β) (lines : List α) :
    WellCut header? (Block.blocks header? lines) := by
  induction lines with
  | nil => exact ⟨by simp, by simp⟩
  | cons line lines ih => exact wellCut_cons header? line _ ih

/-- The first block starts with the first line. -/
lemma blocks_cons_eq (header? : α → Option β) (line : α) (lines : List α) :
    ∃ more rest, Block.blocks header? (line :: lines) = ⟨header? line, line :: more⟩ :: rest := by
  rw [Block.blocks_cons]
  rcases Block.blocks header? lines with _ | ⟨⟨_ | header, first⟩, rest⟩
  · exact ⟨[], [], rfl⟩
  · exact ⟨first, rest, rfl⟩
  · exact ⟨[], ⟨some header, first⟩ :: rest, rfl⟩

lemma blocks_ne_nil (header? : α → Option β) (lines : List α) (h : lines ≠ []) :
    Block.blocks header? lines ≠ [] := by
  obtain ⟨line, lines, rfl⟩ := List.exists_cons_of_ne_nil h
  obtain ⟨more, rest, heq⟩ := blocks_cons_eq header? line lines
  simp [heq]

lemma lines_ne_nil_of_mem_blocks (header? : α → Option β) (lines : List α) (block : Block α β)
    (h : block ∈ Block.blocks header? lines) : block.lines ≠ [] := by
  obtain ⟨line, rest, hlines, _⟩ := (wellCut_blocks header? lines).headed block h
  simp [hlines]

/-- A block with the range of lines that it is given. -/
structure Span (α β : Type) where
  start : Nat
  stop : Nat
  block : Block α β

/-- Blocks placed one after the other from line `start` on. The last one is stretched to `stop`. -/
def spans (stop start : Nat) : List (Block α β) → List (Span α β)
  | [] => []
  | [block] => [⟨start, stop, block⟩]
  | block :: rest =>
    ⟨start, start + block.lines.length, block⟩ :: spans stop (start + block.lines.length) rest

@[simp] lemma spans_nil (stop start : Nat) : spans stop start ([] : List (Block α β)) = [] := rfl

@[simp] lemma spans_singleton (stop start : Nat) (block : Block α β) :
    spans stop start [block] = [⟨start, stop, block⟩] := rfl

@[simp] lemma spans_cons_cons (stop start : Nat) (block next : Block α β)
    (rest : List (Block α β)) :
    spans stop start (block :: next :: rest) =
      ⟨start, start + block.lines.length, block⟩ ::
        spans stop (start + block.lines.length) (next :: rest) := rfl

lemma spans_cons_eq (stop start : Nat) (block : Block α β) (rest : List (Block α β)) :
    ∃ stop' others, spans stop start (block :: rest) = ⟨start, stop', block⟩ :: others := by
  cases rest with
  | nil => exact ⟨stop, [], rfl⟩
  | cons next rest => exact ⟨_, _, spans_cons_cons stop start block next rest⟩

lemma map_block_spans (stop start : Nat) (blocks : List (Block α β)) :
    (spans stop start blocks).map Span.block = blocks := by
  induction blocks generalizing start with
  | nil => rfl
  | cons block rest ih =>
    cases rest with
    | nil => rfl
    | cons next rest => rw [spans_cons_cons, List.map_cons, ih]

lemma spans_ne_nil (stop start : Nat) (blocks : List (Block α β)) (h : blocks ≠ []) :
    spans stop start blocks ≠ [] := by
  intro hnil
  have hmap := map_block_spans stop start blocks
  rw [hnil] at hmap
  exact h hmap.symm

lemma block_mem_of_mem_spans {stop start : Nat} {blocks : List (Block α β)} {span : Span α β}
    (h : span ∈ spans stop start blocks) : span.block ∈ blocks := by
  rw [← map_block_spans stop start blocks]
  exact List.mem_map_of_mem h

theorem spans_tiles (stop start : Nat) (blocks : List (Block α β)) (hne : blocks ≠ [])
    (hlines : ∀ block ∈ blocks, block.lines ≠ [])
    (hstop : start + (blocks.flatMap Block.lines).length ≤ stop) :
    Tiles (fun span : Span α β => (span.start : Int)) (fun span => (span.stop : Int)) start stop
      (spans stop start blocks) := by
  induction blocks generalizing start with
  | nil => exact absurd rfl hne
  | cons block rest ih =>
    obtain ⟨hblock, hrest⟩ := List.forall_mem_cons.mp hlines
    have hpos := List.length_pos_iff.mpr hblock
    rw [List.flatMap_cons, List.length_append] at hstop
    cases rest with
    | nil => exact ⟨rfl, by simp only; omega, rfl⟩
    | cons next rest =>
      refine ⟨rfl, by simp only; omega, ?_⟩
      exact ih (start + block.lines.length) (by simp) hrest (by omega)

/-- Every block fits into the range that it is given. -/
lemma length_le_of_mem_spans {stop start : Nat} {blocks : List (Block α β)}
    (hstop : start + (blocks.flatMap Block.lines).length ≤ stop) {span : Span α β}
    (h : span ∈ spans stop start blocks) : span.start + span.block.lines.length ≤ span.stop := by
  induction blocks generalizing start with
  | nil => simp at h
  | cons block rest ih =>
    rw [List.flatMap_cons, List.length_append] at hstop
    cases rest with
    | nil =>
      obtain rfl : span = ⟨start, stop, block⟩ := by simpa using h
      simpa using hstop
    | cons next rest =>
      rw [spans_cons_cons, List.mem_cons] at h
      rcases h with rfl | hmem
      · exact Nat.le_refl _
      · exact ih (by omega) hmem

/-- What `read?` finds in consecutive lines, the first of which has number `start`: everything that
is found stands beside the number of its line. -/
def declarationsFrom (read? : α → Option γ) (start : Nat) (lines : List α) : List (γ × Int) :=
  (lines.zipIdx start).filterMap fun (line, number) =>
    (read? line).map fun found => (found, (number : Int))

@[simp] lemma declarationsFrom_nil (read? : α → Option γ) (start : Nat) :
    declarationsFrom read? start [] = [] := rfl

lemma declarationsFrom_cons (read? : α → Option γ) (start : Nat) (line : α) (lines : List α) :
    declarationsFrom read? start (line :: lines) =
      ((read? line).map fun found => (found, (start : Int))).toList ++
        declarationsFrom read? (start + 1) lines := by
  unfold declarationsFrom
  rw [List.zipIdx_cons]
  cases hread : read? line <;> simp [hread]

lemma declarationsFrom_append (read? : α → Option γ) (start : Nat) (lines more : List α) :
    declarationsFrom read? start (lines ++ more) =
      declarationsFrom read? start lines ++
        declarationsFrom read? (start + lines.length) more := by
  simp only [declarationsFrom, List.zipIdx_append, List.filterMap_append]

lemma declarationsFrom_map (read? : β → Option γ) (f : α → β) (start : Nat) (lines : List α) :
    declarationsFrom read? start (lines.map f) =
      declarationsFrom (fun line => read? (f line)) start lines := by
  simp only [declarationsFrom, List.zipIdx_map, List.filterMap_map]
  rfl

lemma declarationsFrom_eq_nil (read? : α → Option γ) (start : Nat) (lines : List α)
    (h : ∀ line ∈ lines, read? line = none) : declarationsFrom read? start lines = [] := by
  induction lines generalizing start with
  | nil => rfl
  | cons line lines ih =>
    obtain ⟨hline, hlines⟩ := List.forall_mem_cons.mp h
    rw [declarationsFrom_cons, hline, ih (start + 1) hlines]
    rfl

lemma line_of_mem_declarationsFrom {read? : α → Option γ} {start : Nat} {lines : List α}
    {found : γ × Int} (h : found ∈ declarationsFrom read? start lines) :
    (start : Int) ≤ found.2 ∧ found.2 < ((start + lines.length : Nat) : Int) := by
  obtain ⟨⟨line, number⟩, hmem, hread⟩ := List.mem_filterMap.mp h
  obtain ⟨name, _, rfl⟩ := Option.map_eq_some_iff.mp hread
  have hle := List.le_snd_of_mem_zipIdx hmem
  have hlt := List.snd_lt_add_of_mem_zipIdx hmem
  simp only at hle hlt ⊢
  omega

/-- What is read from the blocks one after the other is what is read from their lines at once. -/
theorem declarationsFrom_spans (read? : α → Option γ) (stop start : Nat)
    (blocks : List (Block α β)) :
    ((spans stop start blocks).flatMap fun span =>
      declarationsFrom read? span.start span.block.lines) =
      declarationsFrom read? start (blocks.flatMap Block.lines) := by
  induction blocks generalizing start with
  | nil => rfl
  | cons block rest ih =>
    rw [List.flatMap_cons, declarationsFrom_append]
    cases rest with
    | nil => simp
    | cons next rest => rw [spans_cons_cons, List.flatMap_cons, ih]

/-- A headed block declares its header and no other. -/
lemma declarationsFrom_headed (header? : α → Option β) (start : Nat) (block : Block α β)
    (h : Headed header? block) :
    declarationsFrom header? start block.lines =
      (block.header.map fun header => (header, (start : Int))).toList := by
  obtain ⟨line, rest, hlines, hheader, hrest⟩ := h
  rw [hlines, declarationsFrom_cons, declarationsFrom_eq_nil header? _ rest hrest, hheader,
    List.append_nil]

/-- The headers of the blocks are all the headers of the list, each at the start of its block. -/
theorem headers_spans (header? : α → Option β) (stop start : Nat) (blocks : List (Block α β))
    (h : ∀ block ∈ blocks, Headed header? block) :
    ((spans stop start blocks).filterMap fun span =>
      span.block.header.map fun header => (header, (span.start : Int))) =
      declarationsFrom header? start (blocks.flatMap Block.lines) := by
  rw [← declarationsFrom_spans header? stop start blocks, List.filterMap_eq_flatMap_toList]
  apply List.flatMap_congr
  intro span hspan
  exact (declarationsFrom_headed header? span.start span.block
    (h span.block (block_mem_of_mem_spans hspan))).symm

end StoryAtlas.Proofs
