import StoryAtlas.Text.Split

/-!
# Lines of a text

Lines are counted the way an editor buffer counts them: every line feed starts a new line, so a
text always has one line more than it has line feeds. A carriage return that ends a line belongs
to the line ending and is dropped; any other carriage return is text.
-/

namespace StoryAtlas.Text

/-- Drops one carriage return at the end. -/
def dropReturn (line : List Char) : List Char :=
  if line.getLast? = some '\r' then line.dropLast else line

/-- The lines of a character list, without their line endings. -/
def charLines (cs : List Char) : List (List Char) :=
  (split '\n' cs).map dropReturn

/-- The lines of a text, without their line endings. -/
def lines (text : String) : List String :=
  (charLines text.toList).map String.ofList

theorem charLines_ne_nil (cs : List Char) : charLines cs ≠ [] := by
  simp [charLines, split_ne_nil]

end StoryAtlas.Text
