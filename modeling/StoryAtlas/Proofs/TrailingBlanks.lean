import Mathlib.Data.List.DropRight
import StoryAtlas.Proofs.LineGrammar
import StoryAtlas.Proofs.OutlineReading

/-!
# Blanks at the ends of lines

What a line declares does not depend on blanks at its end: none of the four recognisers sees them,
whatever has to follow a name and whatever they have to give back. So two lists of lines that differ
by such blanks alone have one outline and the same includes.
-/

namespace StoryAtlas.Proofs
open StoryAtlas.Story

variable {α β γ : Type}

/-! ### Readers and blanks at the end -/

/-- The reader gives the same answer with one more blank at the end. -/
def IgnoresEnd (read : List Char → γ) : Prop :=
  ∀ cs c, Text.isBlank c = true → read (cs ++ [c]) = read cs

/-- A blank at the end is skipped with the others, or it stays at the end. -/
lemma skipBlanks_append {c : Char} (hc : Text.isBlank c = true) (cs : List Char) :
    Text.skipBlanks (cs ++ [c]) = Text.skipBlanks cs ∨
      Text.skipBlanks (cs ++ [c]) = Text.skipBlanks cs ++ [c] := by
  rw [Text.skipBlanks, List.dropWhile_append]
  split_ifs with hall
  · left
    rw [Text.skipBlanks, List.isEmpty_iff.mp hall, List.dropWhile_cons_of_pos hc,
      List.dropWhile_nil]
  · right
    rfl

lemma after?_append {c : Char} (hc : Text.isBlank c = true) (front cs : List Char)
    (hfront : front.any Text.isBlank = false) :
    after? front (cs ++ [c]) = (after? front cs).map (· ++ [c]) := by
  induction front generalizing cs with
  | nil => rfl
  | cons t front ih =>
    obtain ⟨ht, hrest⟩ := Bool.or_eq_false_iff.mp hfront
    cases cs with
    | nil => simp [after?, (ne_of_isBlank hc ht).symm]
    | cons d cs =>
      by_cases htd : t = d
      · simp [after?, htd, ih cs hrest]
      · simp [after?, htd]

lemma readName?_append {c : Char} (hc : Text.isBlank c = true) (cs : List Char) :
    readName? (cs ++ [c]) = (readName? cs).map fun found => (found.1, found.2 ++ [c]) := by
  have hend := isNameChar_of_isBlank hc
  have htake : (cs ++ [c]).takeWhile isNameChar = cs.takeWhile isNameChar := by
    induction cs with
    | nil => simp [hend]
    | cons d cs ih => simp only [List.cons_append, List.takeWhile_cons, ih]
  have hdrop : (cs ++ [c]).dropWhile isNameChar = cs.dropWhile isNameChar ++ [c] := by
    rw [List.dropWhile_append]
    split_ifs with hall
    · simp [List.isEmpty_iff.mp hall, hend]
    · rfl
  rw [readName?, htake, hdrop, readName?]
  split_ifs <;> rfl

section Readers

variable {read : List Char → Option γ}

lemma ignoresEnd_skipBlanks (h : IgnoresEnd read) :
    IgnoresEnd fun cs => read (Text.skipBlanks cs) := by
  intro cs c hc
  rcases skipBlanks_append hc cs with hskip | hskip
  · exact congrArg read hskip
  · exact (congrArg read hskip).trans (h _ c hc)

lemma ignoresEnd_after? (front : List Char) (hfront : front.any Text.isBlank = false)
    (h : IgnoresEnd read) : IgnoresEnd fun cs => (after? front cs).bind read := by
  intro cs c hc
  dsimp only
  rw [after?_append hc front cs hfront]
  cases after? front cs with
  | none => rfl
  | some rest => exact h rest c hc

/-- A single blank stands apart, but nothing is left behind it. -/
lemma ignoresEnd_afterBlanks? (hnil : read [] = none) (h : IgnoresEnd read) :
    IgnoresEnd fun cs => (afterBlanks? cs).bind read := by
  intro cs c hc
  dsimp only
  cases cs with
  | nil =>
    have hlast : afterBlanks? [c] = some [] := if_pos hc
    rw [List.nil_append, hlast]
    exact hnil
  | cons d cs =>
    rw [List.cons_append, afterBlanks?, afterBlanks?]
    split_ifs
    · exact ignoresEnd_skipBlanks h cs c hc
    · rfl

lemma ignoresEnd_readName? (read : List Char → List Char → Option γ)
    (h : ∀ name, IgnoresEnd (read name)) :
    IgnoresEnd fun cs => (readName? cs).bind fun found => read found.1 found.2 := by
  intro cs c hc
  dsimp only
  rw [readName?_append hc]
  cases readName? cs with
  | none => rfl
  | some found => exact h found.1 found.2 c hc

end Readers

/-! ### Structural lines -/

lemma ignoresEnd_functionName? : IgnoresEnd functionName? := by
  rw [funext functionName?_eq_bind]
  apply ignoresEnd_after? _ rfl
  apply ignoresEnd_afterBlanks? rfl
  apply ignoresEnd_readName? fun name _ => some name
  intro name cs c _
  rfl

lemma ignoresEnd_knotHeader? : IgnoresEnd knotHeader? := by
  have hbody : IgnoresEnd knotBody? := by
    intro cs c hc
    rw [knotBody?, ignoresEnd_functionName? cs c hc, readName?_append hc, Option.map_map]
    rfl
  have hafter := ignoresEnd_after? ['=', '=', '='] rfl (ignoresEnd_skipBlanks hbody)
  rw [funext knotHeader?_eq_bind]
  exact ignoresEnd_skipBlanks hafter

lemma ignoresEnd_stitchHeader? : IgnoresEnd stitchHeader? := by
  have hname := ignoresEnd_skipBlanks (ignoresEnd_readName?
    (fun name _ => some (String.ofList name)) fun _ _ _ _ => rfl)
  have hbody : IgnoresEnd stitchBody? := by
    intro cs c hc
    have hne : c ≠ '=' := ne_of_isBlank hc (by decide)
    cases cs with
    | nil => simp [stitchBody?, hne]
    | cons d cs =>
      by_cases hd : d = '='
      · subst hd
        have hhead : (cs ++ [c]).head? = some '=' ↔ cs.head? = some '=' := by
          cases cs <;> simp [hne]
        simp only [List.cons_append, stitchBody?, hhead, Option.map_eq_bind]
        split_ifs
        · rfl
        · exact hname cs c hc
      · simp [stitchBody?, hd]
  exact ignoresEnd_skipBlanks hbody

lemma ignoresEnd_label? : IgnoresEnd label? := by
  have hbody : IgnoresEnd labelBody? := by
    intro cs c hc
    have hopen : c ≠ '(' := ne_of_isBlank hc (by decide)
    have hclose : c ≠ ')' := ne_of_isBlank hc (by decide)
    cases cs with
    | nil => simp [labelBody?, hopen]
    | cons d cs =>
      by_cases hd : d = '('
      · subst hd
        simp only [List.cons_append, labelBody?, readName?_append hc]
        rcases readName? cs with _ | ⟨name, _ | ⟨e, rest⟩⟩
        · rfl
        · simp [hclose]
        · by_cases he : e = ')' <;> simp [he]
      · simp [labelBody?, hd]
  intro line c hc
  rw [label?_eq, label?_eq]
  rcases skipBlanks_append hc line with hskip | hskip
  · rw [hskip]
  · rw [hskip]
    cases Text.skipBlanks line with
    | nil => exact ite_self none
    | cons bullet rest =>
      simp only [List.cons_append]
      split_ifs
      · exact ignoresEnd_skipBlanks hbody rest c hc
      · rfl

lemma ignoresEnd_include? : IgnoresEnd include? := by
  have hend : ∀ name : List Char, IgnoresEnd fun rest : List Char =>
      if rest.head?.all Text.isBlank then
        some (String.ofList (name ++ ['.', 'i', 'n', 'k'])) else none := by
    intro name cs c hc
    have hhead : (cs ++ [c]).head?.all Text.isBlank = cs.head?.all Text.isBlank := by
      cases cs <;> simp [hc]
    simp only [hhead]
  have hname := ignoresEnd_readName? _ fun name =>
    ignoresEnd_after? ['.', 'i', 'n', 'k'] rfl (hend name)
  have hafter := ignoresEnd_after? ['I', 'N', 'C', 'L', 'U', 'D', 'E'] rfl
    (ignoresEnd_afterBlanks? rfl hname)
  rw [funext include?_eq_bind]
  exact ignoresEnd_skipBlanks hafter

/-! ### Lines without the blanks at their ends -/

/-- The line without the blanks at its end. -/
def trimEnd (line : List Char) : List Char :=
  line.rdropWhile Text.isBlank

lemma read_trimEnd {read : List Char → γ} (h : IgnoresEnd read) (line : List Char) :
    read (trimEnd line) = read line := by
  induction line using List.reverseRecOn with
  | nil => rfl
  | append_singleton line c ih =>
    by_cases hc : Text.isBlank c = true
    · rw [trimEnd, List.rdropWhile_concat_pos _ _ _ hc, h line c hc]
      exact ih
    · rw [trimEnd, List.rdropWhile_concat_neg _ _ _ hc]

/-- The function changes lines, but none of their headers and labels. -/
structure KeepsHeadings (f : List Char → List Char) : Prop where
  knot : ∀ line, knotHeader? (f line) = knotHeader? line
  stitch : ∀ line, stitchHeader? (f line) = stitchHeader? line
  label : ∀ line, label? (f line) = label? line

/-- The function changes lines, but nothing that they declare. -/
structure KeepsDeclarations (f : List Char → List Char) : Prop extends KeepsHeadings f where
  inclusion : ∀ line, include? (f line) = include? line

lemma keepsDeclarations_trimEnd : KeepsDeclarations trimEnd where
  knot := read_trimEnd ignoresEnd_knotHeader?
  stitch := read_trimEnd ignoresEnd_stitchHeader?
  label := read_trimEnd ignoresEnd_label?
  inclusion := read_trimEnd ignoresEnd_include?

def mapBlock (f : α → α) (block : Block α β) : Block α β :=
  { block with lines := block.lines.map f }

def mapSpan (f : α → α) (span : Span α β) : Span α β :=
  { span with block := mapBlock f span.block }

lemma blocks_map (header? : α → Option β) (f : α → α)
    (h : ∀ line, header? (f line) = header? line) (lines : List α) :
    Block.blocks header? (lines.map f) = (Block.blocks header? lines).map (mapBlock f) := by
  induction lines with
  | nil => rfl
  | cons line lines ih =>
    rw [List.map_cons, Block.blocks_cons, Block.blocks_cons, ih]
    rcases Block.blocks header? lines with _ | ⟨⟨_ | header, first⟩, rest⟩ <;>
      simp [Block.cons, mapBlock, h]

lemma spans_map (f : α → α) (stop start : Nat) (blocks : List (Block α β)) :
    spans stop start (blocks.map (mapBlock f)) = (spans stop start blocks).map (mapSpan f) := by
  induction blocks generalizing start with
  | nil => rfl
  | cons block rest ih =>
    cases rest with
    | nil => rfl
    | cons next rest =>
      have hlength : (mapBlock f block).lines.length = block.lines.length := List.length_map _
      rw [List.map_cons, List.map_cons, spans_cons_cons, spans_cons_cons, List.map_cons, hlength,
        ← List.map_cons, ih]
      rfl

section Map

variable {f : List Char → List Char}

lemma stitchOfSpan_map (h : KeepsHeadings f) (span : Span (List Char) String) :
    stitchOfSpan (mapSpan f span) = stitchOfSpan span := by
  have hlabels : labelsFrom span.start (span.block.lines.map f) =
      labelsFrom span.start span.block.lines := by
    rw [labelsFrom_eq_map, labelsFrom_eq_map, declarationsFrom_map]
    simp only [h.label]
  simp only [stitchOfSpan, mapSpan, mapBlock, hlabels]

lemma knotOfSpan_map (h : KeepsHeadings f) (span : Span (List Char) KnotHeader) :
    knotOfSpan (mapSpan f span) = knotOfSpan span := by
  have hstitches : readStitches span.start span.stop (span.block.lines.map f) =
      readStitches span.start span.stop span.block.lines := by
    rw [readStitches_eq_map, readStitches_eq_map, blocks_map _ f h.stitch, spans_map, List.map_map]
    apply List.map_congr_left
    intro inner _
    exact stitchOfSpan_map h inner
  simp only [knotOfSpan, readKnot, mapSpan, mapBlock, hstitches]

theorem ofLines_map_headings (h : KeepsHeadings f) (lines : List (List Char)) :
    Outline.ofLines (lines.map f) = Outline.ofLines lines := by
  have hknots : (Outline.ofLines (lines.map f)).knots = (Outline.ofLines lines).knots := by
    rw [knots_ofLines_eq_map, knots_ofLines_eq_map, blocks_map _ f h.knot, spans_map, List.map_map,
      List.length_map]
    apply List.map_congr_left
    intro span _
    exact knotOfSpan_map h span
  simp only [Outline.ofLines, List.length_map] at hknots ⊢
  rw [hknots]

theorem ofLines_map (h : KeepsDeclarations f) (lines : List (List Char)) :
    Outline.ofLines (lines.map f) = Outline.ofLines lines :=
  ofLines_map_headings h.toKeepsHeadings lines

lemma includesOf_map (h : KeepsDeclarations f) (path : Path) (lines : List (List Char)) :
    includesOf path (lines.map f) = includesOf path lines := by
  have hnames : includeNames (lines.map f) = includeNames lines := by
    rw [includeNames, List.filterMap_map]
    congr 1
    funext line
    exact h.inclusion line
  rw [includesOf, hnames, includesOf]

end Map

end StoryAtlas.Proofs
