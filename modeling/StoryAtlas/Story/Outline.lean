/-!
# Outlines

The outline of a story is a list of knots, each with its stitches, each with its labels. Knots and
stitches cover half-open ranges of lines, counted from zero. An outline read from a text always
partitions its lines; an outline that is built by hand may hold any integers, which is what
`Outline.check` in `StoryAtlas.Story.Partition` is for.
-/

namespace StoryAtlas.Story

/-- A labelled gather or choice. -/
structure Label where
  name : String
  line : Int
  deriving DecidableEq, Repr, Inhabited

/-- A stitch covers the lines from `start` up to `stop`, without `stop`. The lines of a knot before
its first stitch header form a stitch without a name. -/
structure Stitch where
  name : Option String
  start : Int
  stop : Int
  labels : List Label
  deriving DecidableEq, Repr, Inhabited

/-- A knot covers the lines from `start` up to `stop`, without `stop`. The lines before the first
knot header form a knot without a name. -/
structure Knot where
  name : Option String
  start : Int
  stop : Int
  isFunction : Bool
  stitches : List Stitch
  deriving DecidableEq, Repr, Inhabited

/-- The structure of one story file. The last knot and its last stitch end one line past the end of
the file, so that the position behind the last line still lies in both. -/
structure Outline where
  lineCount : Int
  knots : List Knot
  deriving DecidableEq, Repr, Inhabited

/-- The line lies in the range of the stitch. -/
def Stitch.contains (stitch : Stitch) (line : Int) : Bool :=
  decide (stitch.start ≤ line) && decide (line < stitch.stop)

/-- The line lies in the range of the knot. -/
def Knot.contains (knot : Knot) (line : Int) : Bool :=
  decide (knot.start ≤ line) && decide (line < knot.stop)

@[simp] theorem Stitch.contains_iff {stitch : Stitch} {line : Int} :
    stitch.contains line = true ↔ stitch.start ≤ line ∧ line < stitch.stop := by
  simp [Stitch.contains]

@[simp] theorem Knot.contains_iff {knot : Knot} {line : Int} :
    knot.contains line = true ↔ knot.start ≤ line ∧ line < knot.stop := by
  simp [Knot.contains]

end StoryAtlas.Story
