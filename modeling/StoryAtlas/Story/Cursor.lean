import StoryAtlas.Story.Line
import StoryAtlas.Text.Split

/-!
# The text around a cursor

An editor asks three questions while a story is typed: does the text before the cursor call for a
divert target, which divert target does the cursor stand on, and can an edit change the structure
of the file.
-/

namespace StoryAtlas.Story

open StoryAtlas.Text

/-- Drops one line feed at the end; the end of a line is a place just before it, too. -/
def lineEnds (cs : List Char) : List (List Char) :=
  if cs.getLast? = some '\n' then [cs, cs.dropLast] else [cs]

/-- The text read backwards, without one space at its end. -/
def unspaced : List Char → List Char
  | ' ' :: cs => cs
  | cs => cs

/-- The text, read backwards, ends with a divert or thread arrow and at most one space. -/
def endsWithArrow (backwards : List Char) : Bool :=
  match unspaced backwards with
  | '>' :: '-' :: _ => true
  | '-' :: '<' :: _ => true
  | _ => false

/-- The text, read backwards, ends with two divert arrows, with at most one space behind each. -/
def endsWithTunnel (backwards : List Char) : Bool :=
  match unspaced backwards with
  | '>' :: '-' :: cs =>
    match unspaced cs with
    | '>' :: '-' :: _ => true
    | _ => false
  | _ => false

/-- The cursor stands right behind an arrow that wants a target. The arrow nearest to the cursor
counts, and the two arrows of a tunnel return want none. -/
def isDivertTrigger (before : String) : Bool :=
  let ends := (lineEnds before.toList).map List.reverse
  ends.any endsWithArrow && !ends.any endsWithTunnel

/-- Characters of a divert target: names with dots between them. -/
def isTargetChar (c : Char) : Bool :=
  isNameChar c || c == '.'

/-- The target characters just before the cursor, if a divert arrow and blanks come before them.
The text is given backwards, and so is the answer. -/
def targetBefore? (backwards : List Char) : Option (List Char) :=
  match skipBlanks (backwards.dropWhile isTargetChar) with
  | '>' :: '-' :: _ => some (backwards.takeWhile isTargetChar)
  | _ => none

/-- The first name of a dotted target, unless it is empty. -/
def headName? (target : List Char) : Option String :=
  let name := target.takeWhile (· != '.')
  if name.isEmpty then none else some (String.ofList name)

/-- The divert target on which the cursor stands, at a column counted from zero; of a dotted target
the first name. -/
def divertNameAt (line : String) (column : Int) : Option String :=
  if column < 0 ∨ (line.length : Int) < column then none
  else
    let before := line.toList.take column.toNat
    let after := line.toList.drop column.toNat
    match (lineEnds before).findSome? fun cs => targetBefore? cs.reverse with
    | none => none
    | some name => headName? (name.reverse ++ after.takeWhile isTargetChar)

/-- Characters that can start, end or shape a structural line. -/
def isStructural (c : Char) : Bool :=
  c == '\n' || c == '*' || c == '+' || c == '(' || c == ')' || c == '-' || c == '='

/-- One of the inserted texts holds a structural character. -/
def warrantsReparse (inserted : List String) : Bool :=
  inserted.any fun text => text.toList.any isStructural

end StoryAtlas.Story
