import StoryAtlas.Story.Block
import StoryAtlas.Story.Line
import StoryAtlas.Story.Outline
import StoryAtlas.Text.Lines

/-!
# Reading an outline

The knots of a text are its blocks under knot headers, and the stitches of a knot are its blocks
under stitch headers. No text is malformed: a line that declares nothing belongs to the block that
it stands in.
-/

namespace StoryAtlas.Story

/-- The labels of consecutive lines, the first of which has number `start`. -/
def labelsFrom (start : Nat) (lines : List (List Char)) : List Label :=
  (lines.zipIdx start).filterMap fun (line, number) =>
    (label? line).map fun name => ⟨name, number⟩

/-- The stitches that blocks of lines make from line `start` on. The last one ends at `stop`, where
its knot ends. -/
def placeStitches (stop : Nat) (start : Nat) : List (Block (List Char) String) → List Stitch
  | [] => []
  | [block] => [⟨block.header, start, stop, labelsFrom start block.lines⟩]
  | block :: rest =>
    ⟨block.header, start, (start + block.lines.length : Nat), labelsFrom start block.lines⟩ ::
      placeStitches stop (start + block.lines.length) rest

/-- The stitches of a knot that starts at line `start` and ends at `stop`. -/
def readStitches (start stop : Nat) (lines : List (List Char)) : List Stitch :=
  placeStitches stop start (Block.blocks stitchHeader? lines)

/-- The knot that a block of lines makes between two line numbers. -/
def readKnot (start stop : Nat) (block : Block (List Char) KnotHeader) : Knot where
  name := block.header.map KnotHeader.name
  start := start
  stop := stop
  isFunction := (block.header.map KnotHeader.isFunction).getD false
  stitches := readStitches start stop block.lines

/-- The knots that blocks of lines make from line `start` on. The last one ends at `stop`. -/
def placeKnots (stop : Nat) (start : Nat) : List (Block (List Char) KnotHeader) → List Knot
  | [] => []
  | [block] => [readKnot start stop block]
  | block :: rest =>
    readKnot start (start + block.lines.length) block ::
      placeKnots stop (start + block.lines.length) rest

/-- The outline of a list of lines. -/
def Outline.ofLines (lines : List (List Char)) : Outline where
  lineCount := lines.length
  knots := placeKnots (lines.length + 1) 0 (Block.blocks knotHeader? lines)

/-- The outline of a text. -/
def Outline.ofText (text : String) : Outline :=
  Outline.ofLines (Text.charLines text.toList)

/-- The story files that the lines include, in order and with repetitions. -/
def includeNames (lines : List (List Char)) : List String :=
  lines.filterMap include?

end StoryAtlas.Story
