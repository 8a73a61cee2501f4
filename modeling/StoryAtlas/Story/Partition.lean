import StoryAtlas.Story.Outline
import StoryAtlas.Text.Quoted

/-!
# Partition of a file into knots and stitches

The knots of an outline have to follow each other from line 0 to one past the end of the file
without a gap, the stitches of a knot likewise within the knot, and every label has to lie in its
stitch. `Outline.check` finds the first way in which an outline fails this.
-/

namespace StoryAtlas.Story

/-- The ways in which an outline can fail to partition its file. A knot or stitch is told by its
name, which may be missing. -/
inductive PartitionError where
  | noKnot
  | firstKnotStart
  | lastKnotStop
  | knotStart (knot : Option String) (actual expected : Int)
  | emptyKnot (knot : Option String)
  | noStitch (knot : Option String)
  | stitchStart (stitch knot : Option String) (actual expected : Int)
  | emptyStitch (stitch : Option String)
  | labelOutside (label : String) (line : Int)
  | stitchesStop (knot : Option String) (actual expected : Int)
  deriving DecidableEq, Repr

/-- A name as messages show it: quoted, or `None` where there is none. -/
def shownName : Option String → String
  | none => "None"
  | some name => Text.quoted name

/-- The wording of a partition error. -/
def PartitionError.message : PartitionError → String
  | noKnot => "File must contain at least one knot."
  | firstKnotStart => "First knot must start at line 0."
  | lastKnotStop => "Last knot must end one line past end of file."
  | knotStart knot actual expected =>
    s!"Knot {shownName knot} starts at {actual}, expected {expected}."
  | emptyKnot knot => s!"Knot {shownName knot} has an empty range."
  | noStitch knot => s!"Knot {shownName knot} must contain at least one stitch."
  | stitchStart stitch knot actual expected =>
    s!"Stitch {shownName stitch} in knot {shownName knot} starts at {actual}, expected {expected}."
  | emptyStitch stitch => s!"Stitch {shownName stitch} has an empty range."
  | labelOutside label line =>
    s!"Label {Text.quoted label} at line {line} lies outside its stitch."
  | stitchesStop knot actual expected =>
    s!"Stitches of knot {shownName knot} end at {actual}, expected {expected}."

/-- The first label outside its stitch. -/
def checkLabels (stitch : Stitch) : List Label → Except PartitionError Unit
  | [] => .ok ()
  | label :: labels =>
    if stitch.contains label.line then checkLabels stitch labels
    else .error (.labelOutside label.name label.line)

/-- Checks that stitches follow each other from `cursor` on and answers where the last one ends. -/
def checkStitches (knot : Option String) (cursor : Int) :
    List Stitch → Except PartitionError Int
  | [] => .ok cursor
  | stitch :: stitches =>
    if stitch.start ≠ cursor then
      .error (.stitchStart stitch.name knot stitch.start cursor)
    else if stitch.stop ≤ stitch.start then .error (.emptyStitch stitch.name)
    else
      match checkLabels stitch stitch.labels with
      | .error e => .error e
      | .ok () => checkStitches knot stitch.stop stitches

/-- Checks that the stitches of a knot fill it. -/
def checkKnot (knot : Knot) : Except PartitionError Unit :=
  if knot.stitches = [] then .error (.noStitch knot.name)
  else
    match checkStitches knot.name knot.start knot.stitches with
    | .error e => .error e
    | .ok cursor =>
      if cursor ≠ knot.stop then .error (.stitchesStop knot.name cursor knot.stop) else .ok ()

/-- Checks that knots follow each other from `cursor` on and are filled by their stitches. -/
def checkKnots (cursor : Int) : List Knot → Except PartitionError Unit
  | [] => .ok ()
  | knot :: knots =>
    if knot.start ≠ cursor then .error (.knotStart knot.name knot.start cursor)
    else if knot.stop ≤ knot.start then .error (.emptyKnot knot.name)
    else
      match checkKnot knot with
      | .error e => .error e
      | .ok () => checkKnots knot.stop knots

/-- Checks that an outline partitions its file. The two ends of the file are looked at first. -/
def Outline.check (outline : Outline) : Except PartitionError Unit :=
  match outline.knots.head?, outline.knots.getLast? with
  | some first, some last =>
    if first.start ≠ 0 then .error .firstKnotStart
    else if last.stop ≠ outline.lineCount + 1 then .error .lastKnotStop
    else checkKnots 0 outline.knots
  | _, _ => .error .noKnot

end StoryAtlas.Story
