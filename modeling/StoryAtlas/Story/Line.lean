import StoryAtlas.Text.Blank

/-!
# Structural lines

Four kinds of line carry structure in a story: knot headers, stitch headers, gather or choice
labels, and includes. Each recogniser reads one line without its line ending and answers with what
the line declares, or with nothing.
-/

namespace StoryAtlas.Story

open StoryAtlas.Text

/-- Letters, digits and the underscore, all of ASCII. -/
def isNameChar (c : Char) : Bool :=
  c.isAlphanum || c == '_'

/-- The longest non-empty run of name characters in front, and what follows it. -/
def readName? (cs : List Char) : Option (List Char × List Char) :=
  if (cs.takeWhile isNameChar).isEmpty then none
  else some (cs.takeWhile isNameChar, cs.dropWhile isNameChar)

/-- What follows a fixed text in front. -/
def after? : List Char → List Char → Option (List Char)
  | [], cs => some cs
  | _ :: _, [] => none
  | t :: ts, c :: cs => if t = c then after? ts cs else none

/-- What follows one or more blanks in front. -/
def afterBlanks? : List Char → Option (List Char)
  | [] => none
  | c :: cs => if isBlank c then some (skipBlanks cs) else none

/-- A knot header: the declared name, and whether it declares a function. -/
structure KnotHeader where
  name : String
  isFunction : Bool
  deriving DecidableEq, Repr, Inhabited

/-- The name behind the word `function`, which has to stand apart from it. -/
def functionName? (body : List Char) : Option (List Char) :=
  match after? ['f', 'u', 'n', 'c', 't', 'i', 'o', 'n'] body with
  | none => none
  | some rest =>
    match afterBlanks? rest with
    | none => none
    | some rest => (readName? rest).map Prod.fst

/-- Three equals signs and a name; the word `function` in front of the name marks a function,
and is itself the name where no other follows. -/
def knotHeader? (line : List Char) : Option KnotHeader :=
  match after? ['=', '=', '='] (skipBlanks line) with
  | none => none
  | some rest =>
    match functionName? (skipBlanks rest) with
    | some name => some ⟨String.ofList name, true⟩
    | none => (readName? (skipBlanks rest)).map fun found => ⟨String.ofList found.1, false⟩

/-- A single equals sign and a name. -/
def stitchHeader? (line : List Char) : Option String :=
  match skipBlanks line with
  | '=' :: rest =>
    if rest.head? = some '=' then none
    else (readName? (skipBlanks rest)).map fun found => String.ofList found.1
  | _ => none

/-- The marks that open a gather or a choice. -/
def isBullet (c : Char) : Bool :=
  c == '-' || c == '*' || c == '+'

/-- A bullet followed by a name in parentheses. -/
def label? (line : List Char) : Option String :=
  match skipBlanks line with
  | [] => none
  | bullet :: rest =>
    if isBullet bullet then
      match skipBlanks rest with
      | '(' :: rest =>
        match readName? rest with
        | some (name, ')' :: _) => some (String.ofList name)
        | _ => none
      | _ => none
    else none

/-- The word `INCLUDE` and the name of a story file, which ends at a blank or with the line. -/
def include? (line : List Char) : Option String :=
  match after? ['I', 'N', 'C', 'L', 'U', 'D', 'E'] (skipBlanks line) with
  | none => none
  | some rest =>
    match (afterBlanks? rest).bind readName? with
    | none => none
    | some (name, rest) =>
      match after? ['.', 'i', 'n', 'k'] rest with
      | none => none
      | some rest =>
        if rest.head?.all isBlank then some (String.ofList (name ++ ['.', 'i', 'n', 'k'])) else none

end StoryAtlas.Story
