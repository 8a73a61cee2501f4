import StoryAtlas.Json.Basic

/-!
# Limits of the interpreter

A whole number is turned into text, or a text into a whole number, only up to so many digits, and
brackets can be nested only as deep as the stack has room for. Whoever reads or writes a value
beyond these limits is refused.
-/

namespace StoryAtlas.Json

/-- Why a value is refused: a whole number in it has too many digits, its brackets are nested too
deep, or a string in it has half a surrogate pair, so that there is no text for it. -/
inductive Refusal where
  | longNumber
  | tooDeep
  | halfPair
  deriving DecidableEq, Repr, Inhabited

/-- The wording of a refusal. -/
def Refusal.message : Refusal → String
  | longNumber => "Exceeds the limit for integer string conversion."
  | tooDeep => "Maximum recursion depth exceeded."
  | halfPair => "Half a surrogate pair."

/-- What is read and written at most: the digits of a whole number, and brackets within each other.
-/
structure Bounds where
  digits : Nat
  depth : Nat
  deriving DecidableEq, Repr

/-- The largest number of digits that the interpreter converts. -/
def maxDigits : Nat := 4300

/-- The bounds of the interpreter where the stack has room for this many brackets. -/
def Bounds.within (room : Nat) : Bounds :=
  ⟨maxDigits, room⟩

/-- The digits of a whole number. -/
def digitsOf (i : Int) : List Char :=
  Nat.toDigits 10 i.natAbs

mutual

/-- The number of brackets around what is nested deepest in a value. -/
def depth : Json → Nat
  | arr items => itemsDepth items + 1
  | obj fields => fieldsDepth fields + 1
  | _ => 0

/-- The depth of the deepest item. -/
def itemsDepth : List Json → Nat
  | [] => 0
  | item :: items => max item.depth (itemsDepth items)

/-- The depth of the deepest field. -/
def fieldsDepth : List (String × Json) → Nat
  | [] => 0
  | (_, value) :: fields => max value.depth (fieldsDepth fields)

end

mutual

/-- The number of digits of the longest whole number in a value. -/
def width : Json → Nat
  | int i => (digitsOf i).length
  | arr items => itemsWidth items
  | obj fields => fieldsWidth fields
  | _ => 0

/-- The width of the widest item. -/
def itemsWidth : List Json → Nat
  | [] => 0
  | item :: items => max item.width (itemsWidth items)

/-- The width of the widest field. -/
def fieldsWidth : List (String × Json) → Nat
  | [] => 0
  | (_, value) :: fields => max value.width (fieldsWidth fields)

end

end StoryAtlas.Json

namespace StoryAtlas

/-- Why fields cannot be written. They are walked through before a number is turned into text. -/
def Fields.refusal? (bounds : Json.Bounds) (fields : Fields) : Option Json.Refusal :=
  if bounds.depth < Json.fieldsDepth fields then some .tooDeep
  else if bounds.digits < Json.fieldsWidth fields then some .longNumber
  else none

end StoryAtlas
