import StoryAtlas.Proofs.TrailingBlanks

/-!
# Line endings

A carriage return in front of a line feed belongs to the line ending and is dropped. One that was
there already stays behind, as a blank at the end of its line, where nothing sees it. So a text is
read alike whether its lines end with a line feed or with a carriage return in front of it.
-/

namespace StoryAtlas.Proofs
open StoryAtlas.Story

/-- The text with a carriage return in front of every line feed. -/
def withReturns (text : String) : String :=
  String.ofList (text.toList.flatMap fun c => if c = '\n' then ['\r', '\n'] else [c])

/-- The pieces with a carriage return at the end of each but the last. -/
def endPieces : List (List Char) → List (List Char)
  | [] => []
  | [piece] => [piece]
  | piece :: next :: rest => (piece ++ ['\r']) :: endPieces (next :: rest)

lemma endPieces_consPiece (c : Char) (piece : List Char) (pieces : List (List Char)) :
    endPieces (Text.consPiece c (piece :: pieces)) =
      Text.consPiece c (endPieces (piece :: pieces)) := by
  cases pieces <;> rfl

lemma split_withReturns (cs : List Char) :
    Text.split '\n' (cs.flatMap fun c => if c = '\n' then ['\r', '\n'] else [c]) =
      endPieces (Text.split '\n' cs) := by
  induction cs with
  | nil => rfl
  | cons c cs ih =>
    obtain ⟨piece, pieces, hcs⟩ := List.exists_cons_of_ne_nil (Text.split_ne_nil '\n' cs)
    rw [List.flatMap_cons]
    by_cases hc : c = '\n'
    · subst hc
      simp only [if_pos, List.cons_append, List.nil_append, Text.split_cons]
      rw [ih, hcs]
      rfl
    · simp only [if_neg hc, List.cons_append, List.nil_append, Text.split_cons]
      rw [ih, hcs, endPieces_consPiece]

lemma map_trimEnd_endPieces (pieces : List (List Char)) :
    (endPieces pieces).map trimEnd = pieces.map trimEnd := by
  induction pieces with
  | nil => rfl
  | cons piece pieces ih =>
    cases pieces with
    | nil => rfl
    | cons next rest =>
      have hend : trimEnd (piece ++ ['\r']) = trimEnd piece :=
        List.rdropWhile_concat_pos _ _ _ (by decide)
      rw [endPieces, List.map_cons, hend, ih]
      rfl

lemma trimEnd_dropReturn (line : List Char) : trimEnd (Text.dropReturn line) = trimEnd line := by
  induction line using List.reverseRecOn with
  | nil => rfl
  | append_singleton line c _ =>
    rw [Text.dropReturn, List.getLast?_concat, List.dropLast_concat]
    split_ifs with hc
    · obtain rfl := Option.some.inj hc
      exact (List.rdropWhile_concat_pos _ _ _ (by decide)).symm
    · rfl

lemma map_trimEnd_charLines (cs : List Char) :
    (Text.charLines cs).map trimEnd = (Text.split '\n' cs).map trimEnd := by
  rw [Text.charLines, List.map_map]
  apply List.map_congr_left
  intro piece _
  exact trimEnd_dropReturn piece

/-- The lines of both texts differ by blanks at their ends alone. -/
lemma map_trimEnd_withReturns (text : String) :
    (Text.charLines (withReturns text).toList).map trimEnd =
      (Text.charLines text.toList).map trimEnd := by
  rw [withReturns, String.toList_ofList, map_trimEnd_charLines, split_withReturns,
    map_trimEnd_endPieces, map_trimEnd_charLines]

/-- A text is read alike with and without a carriage return in front of every line feed, also if it
holds carriage returns of its own: it has the same number of lines, and the same knots, stitches,
labels and includes. -/
theorem read_ignores_line_endings (path : Path) (text : String) :
    let file := StoryFile.read path text
    let returned := StoryFile.read path (withReturns text)
    returned.outline.lineCount = file.outline.lineCount ∧
    returned.outline.knots = file.outline.knots ∧ returned.includes = file.includes := by
  have hlines := map_trimEnd_withReturns text
  have houtline : Outline.ofText (withReturns text) = Outline.ofText text := by
    rw [Outline.ofText, ← ofLines_map keepsDeclarations_trimEnd, hlines,
      ofLines_map keepsDeclarations_trimEnd, Outline.ofText]
  have hincludes : includesOf path (Text.charLines (withReturns text).toList) =
      includesOf path (Text.charLines text.toList) := by
    rw [← includesOf_map keepsDeclarations_trimEnd, hlines,
      includesOf_map keepsDeclarations_trimEnd]
  dsimp only [StoryFile.read]
  rw [houtline, hincludes]
  exact ⟨rfl, rfl, rfl⟩

/-- The carriage returns that were there stay behind as the last blanks of their lines. -/
example :
    Text.lines (withReturns "=== function\r\nINCLUDE a.ink\r\n= b\r") =
      ["=== function\r", "INCLUDE a.ink\r", "= b"] := by
  decide

end StoryAtlas.Proofs
