/-!
# Blocks of lines

A list is cut in front of every header. Each block carries the header it starts with, and only the
first block can be without one. The blocks together are the list again.
-/

namespace StoryAtlas.Story

/-- A stretch of lines that starts at a header, or at the beginning of the list. -/
structure Block (α β : Type) where
  header : Option β
  lines : List α

namespace Block

variable {α β : Type}

/-- Puts one more line in front: it joins the first block unless a header starts that one. -/
def cons (header? : α → Option β) (line : α) : List (Block α β) → List (Block α β)
  | ⟨none, lines⟩ :: rest => ⟨header? line, line :: lines⟩ :: rest
  | blocks => ⟨header? line, [line]⟩ :: blocks

/-- The blocks of a list. -/
def blocks (header? : α → Option β) (lines : List α) : List (Block α β) :=
  lines.foldr (cons header?) []

@[simp] theorem blocks_nil (header? : α → Option β) : blocks header? [] = [] := rfl

@[simp] theorem blocks_cons (header? : α → Option β) (line : α) (lines : List α) :
    blocks header? (line :: lines) = cons header? line (blocks header? lines) := rfl

theorem flatMap_lines_cons (header? : α → Option β) (line : α) (bs : List (Block α β)) :
    (cons header? line bs).flatMap lines = line :: bs.flatMap lines := by
  rcases bs with _ | ⟨⟨_ | header, ls⟩, rest⟩ <;> simp [cons]

/-- Nothing is lost or reordered. -/
theorem flatMap_lines_blocks (header? : α → Option β) (ls : List α) :
    (blocks header? ls).flatMap lines = ls := by
  induction ls with
  | nil => rfl
  | cons line ls ih => rw [blocks_cons, flatMap_lines_cons, ih]

end Block

end StoryAtlas.Story
