import StoryAtlas.Text.CaseTable

/-!
# Lower case

File extensions are compared in lower case, by the full Unicode mapping: a capital I with a dot
becomes two characters, and a capital sigma takes its final form at the end of a word.
-/

namespace StoryAtlas.Text

/-- The lower-case letter that a run gives to a letter in it. -/
def CaseRun.apply? (run : CaseRun) (n : Nat) : Option Nat :=
  if run.first ≤ n ∧ n ≤ run.last ∧ (n - run.first) % run.step = 0 then
    some (run.image + (n - run.first))
  else none

/-- The simple lower-case form of a character. -/
def lowerChar (c : Char) : Char :=
  if c.toNat < 0x80 then c.toLower
  else
    match lowerRuns.findSome? fun run => run.apply? c.toNat with
    | some n => Char.ofNat n
    | none => c

/-- The character lies in one of the ranges. -/
def inRanges (ranges : List (Nat × Nat)) (c : Char) : Bool :=
  ranges.any fun r => r.1 ≤ c.toNat && c.toNat ≤ r.2

/-- The next character that counts for a word is a letter with case. -/
def meetsLetter (cs : List Char) : Bool :=
  ((cs.dropWhile (inRanges caseIgnorableRanges)).head?.map (inRanges casedRanges)).getD false

/-- The capital sigma. -/
def capitalSigma : Char := Char.ofNat 0x3A3

/-- The capital I with a dot above. -/
def dottedCapitalI : Char := Char.ofNat 0x130

/-- A sigma ends a word if a letter comes before it and none after it. The characters before it are
given backwards. -/
def lowerSigma (before after : List Char) : Char :=
  if meetsLetter before && !meetsLetter after then Char.ofNat 0x3C2 else Char.ofNat 0x3C3

/-- The lower-case form of one character among its neighbours. -/
def lowerWithin (before : List Char) (c : Char) (after : List Char) : List Char :=
  if c = capitalSigma then [lowerSigma before after]
  else if c = dottedCapitalI then ['i', Char.ofNat 0x307]
  else [lowerChar c]

/-- Lower case of a list of characters that follows the characters `before`, given backwards. -/
def lowerFrom (before : List Char) : List Char → List Char
  | [] => []
  | c :: cs => lowerWithin before c cs ++ lowerFrom (c :: before) cs

/-- The lower-case form of a text. -/
def lower (s : String) : String :=
  String.ofList (lowerFrom [] s.toList)

end StoryAtlas.Text
