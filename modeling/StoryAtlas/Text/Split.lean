/-!
# Splitting at a character

`split` cuts a character list at every occurrence of a separator and keeps empty pieces, so that
joining the pieces with the separator gives the text back.
-/

namespace StoryAtlas.Text

/-- Puts one more character in front of the first piece. -/
def consPiece (c : Char) : List (List Char) → List (List Char)
  | [] => [[c]]
  | piece :: pieces => (c :: piece) :: pieces

/-- The pieces between the separators: one more than there are separators. -/
def split (sep : Char) (cs : List Char) : List (List Char) :=
  cs.foldr (fun c pieces => if c = sep then [] :: pieces else consPiece c pieces) [[]]

@[simp] theorem split_nil (sep : Char) : split sep [] = [[]] := rfl

@[simp] theorem split_cons (sep c : Char) (cs : List Char) :
    split sep (c :: cs) = if c = sep then [] :: split sep cs else consPiece c (split sep cs) := rfl

theorem split_ne_nil (sep : Char) (cs : List Char) : split sep cs ≠ [] := by
  induction cs with
  | nil => simp
  | cons c cs ih =>
    rw [split_cons]
    split
    · simp
    · cases h : split sep cs with
      | nil => exact absurd h ih
      | cons piece pieces => simp [consPiece]

theorem split_append (sep : Char) (cs ds : List Char) :
    split sep (cs ++ sep :: ds) = split sep cs ++ split sep ds := by
  induction cs with
  | nil => simp
  | cons c cs ih =>
    rw [List.cons_append, split_cons, split_cons, ih]
    obtain ⟨piece, pieces, hcs⟩ := List.exists_cons_of_ne_nil (split_ne_nil sep cs)
    rw [hcs]
    by_cases hc : c = sep
    · rw [if_pos hc, if_pos hc]
      rfl
    · rw [if_neg hc, if_neg hc]
      rfl

theorem split_of_notMem {sep : Char} {cs : List Char} (h : sep ∉ cs) : split sep cs = [cs] := by
  induction cs with
  | nil => rfl
  | cons c cs ih =>
    rw [List.mem_cons, not_or] at h
    rw [split_cons, if_neg (Ne.symm h.1), ih h.2]
    rfl

/-- `split` on strings. -/
def splitText (sep : Char) (s : String) : List String :=
  (split sep s.toList).map String.ofList

end StoryAtlas.Text
