/-!
# Glob patterns

A pattern is matched against a whole text. A star stands for any characters, slashes and line feeds
included, a question mark for one character, and brackets for one character of a set. A bracket
that is never closed stands for itself.

Inside brackets, an exclamation mark in front negates the set and a bracket right behind it belongs
to the set. A hyphen makes a range of the characters around it, where a character takes part in one
range only; a range that runs backwards is dropped together with its ends, and only then the front
of the set is looked at.
-/

namespace StoryAtlas

namespace Glob

/-- A member of a character set. -/
inductive Member where
  | single (c : Char)
  | span (low high : Char)
  deriving DecidableEq, Repr

/-- A test for one character. -/
inductive CharTest where
  | any
  | never
  | exactly (c : Char)
  | among (negated : Bool) (members : List Member)
  deriving DecidableEq, Repr

/-- A piece of a pattern. -/
inductive Piece where
  | star
  | one (test : CharTest)
  deriving DecidableEq, Repr

/-- The character belongs to the member. -/
def Member.holds : Member → Char → Bool
  | single d, c => c == d
  | span low high, c => low ≤ c && c ≤ high

/-- The character passes the test. -/
def CharTest.holds : CharTest → Char → Bool
  | any, _ => true
  | never, _ => false
  | exactly d, c => c == d
  | among negated members, c => members.any (·.holds c) != negated

/-- What stands between brackets: a character, or the hyphen of a range. -/
inductive Token where
  | lit (c : Char)
  | hyphen
  deriving DecidableEq, Repr

/-- Cuts the inside of brackets at the hyphens that make ranges. The next hyphen is looked for
behind `skip` characters; a hyphen at the end makes no range. -/
def chunks : Nat → Nat → List Char → List (List Char)
  | 0, _, cs => [cs]
  | fuel + 1, skip, cs =>
    match (cs.drop skip).dropWhile (· != '-') with
    | [] => [cs]
    | [_] => [cs]
    | _ :: rest =>
      (cs.take skip ++ (cs.drop skip).takeWhile (· != '-')) :: chunks fuel 2 rest

/-- Puts a chunk in front; if the range between the two runs backwards, both its ends go. -/
def joinChunk (chunk : List Char) : List (List Char) → List (List Char)
  | [] => [chunk]
  | next :: rest =>
    match chunk.getLast?, next.head? with
    | some low, some high =>
      if high < low then (chunk.dropLast ++ next.tail) :: rest else chunk :: next :: rest
    | _, _ => chunk :: next :: rest

/-- The tokens of chunks with a range between any two of them. -/
def tokensOf : List (List Char) → List Token
  | [] => []
  | [chunk] => chunk.map .lit
  | chunk :: rest => chunk.map .lit ++ .hyphen :: tokensOf rest

/-- The tokens between two brackets. -/
def bracketTokens (body : List Char) : List Token :=
  if body.contains '-' then
    let skip := if body.head? = some '!' then 2 else 1
    tokensOf ((chunks body.length skip body).foldr joinChunk [])
  else body.map .lit

/-- The members that tokens stand for. -/
def membersOf : List Token → List Member
  | [] => []
  | .lit low :: .hyphen :: .lit high :: rest => .span low high :: membersOf rest
  | .lit c :: rest => .single c :: membersOf rest
  | .hyphen :: rest => .single '-' :: membersOf rest

/-- The test that the inside of brackets stands for. -/
def bracketTest (body : List Char) : CharTest :=
  match bracketTokens body with
  | [] => .never
  | [.lit '!'] => .any
  | .lit '!' :: rest => .among true (membersOf rest)
  | tokens => .among false (membersOf tokens)

/-- Drops a character in front and keeps it apart. -/
def takeChar (c : Char) : List Char → List Char × List Char
  | [] => ([], [])
  | d :: cs => if d = c then ([d], cs) else ([], d :: cs)

/-- The inside of brackets and what follows them, behind the opening bracket. -/
def bracketBody? (cs : List Char) : Option (List Char × List Char) :=
  let (bang, cs) := takeChar '!' cs
  let (first, cs) := takeChar ']' cs
  match cs.dropWhile (· != ']') with
  | [] => none
  | _ :: rest => some (bang ++ first ++ cs.takeWhile (· != ']'), rest)

/-- Reads at most `fuel` pieces of a pattern. -/
def piecesFrom : Nat → List Char → List Piece
  | 0, _ => []
  | _ + 1, [] => []
  | fuel + 1, c :: cs =>
    if c = '*' then .star :: piecesFrom fuel cs
    else if c = '?' then .one .any :: piecesFrom fuel cs
    else if c = '[' then
      match bracketBody? cs with
      | some (body, rest) => .one (bracketTest body) :: piecesFrom fuel rest
      | none => .one (.exactly '[') :: piecesFrom fuel cs
    else .one (.exactly c) :: piecesFrom fuel cs

/-- The pieces of a pattern; there are no more of them than characters. -/
def pieces (pattern : List Char) : List Piece :=
  piecesFrom pattern.length pattern

/-- At each position: one of the answers from there on is yes. -/
def anyFromHere (answers : List Bool) : List Bool :=
  answers.foldr (fun answer later => (answer || later.headD false) :: later) []

/-- Whether the pieces match each of the suffixes of a text, the text itself first. -/
def suffixMatches : List Piece → List Char → List Bool
  | [], cs => cs.map (fun _ => false) ++ [true]
  | .star :: rest, cs => anyFromHere (suffixMatches rest cs)
  | .one test :: rest, cs =>
    List.zipWith (fun c answer => test.holds c && answer) cs (suffixMatches rest cs).tail ++ [false]

/-- The pieces match the whole text. -/
def matchesPieces (ps : List Piece) (cs : List Char) : Bool :=
  (suffixMatches ps cs).headD false

end Glob

/-- The pattern matches the whole text. -/
def globMatches (pattern text : String) : Bool :=
  Glob.matchesPieces (Glob.pieces pattern.toList) text.toList

end StoryAtlas
