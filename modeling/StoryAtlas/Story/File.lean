import StoryAtlas.Path
import StoryAtlas.Story.Reader

/-!
# Story files

A story file is a canonical path, the text that is known for it, and what the text declares: its
outline and the story files that it includes, which lie in the same directory.
-/

namespace StoryAtlas.Story

/-- A story file with its structure. -/
structure StoryFile where
  path : Path
  text : String
  outline : Outline
  includes : List Path
  deriving DecidableEq, Repr, Inhabited

/-- The included files of a story at `path`, each once, in the order of their first mention. -/
def includesOf (path : Path) (lines : List (List Char)) : List Path :=
  ((includeNames lines).map path.parent.child).eraseDups

/-- Reads the story at a canonical path. -/
def StoryFile.read (path : Path) (text : String) : StoryFile where
  path := path
  text := text
  outline := Outline.ofText text
  includes := includesOf path (Text.charLines text.toList)

end StoryAtlas.Story
