import StoryAtlas.Json.Basic
import StoryAtlas.Number.Shortest
import StoryAtlas.Text.Hex

/-!
# Writing JSON

A value is written on one line of printable ASCII: fields in the order of their keys, a blank after
every comma and colon, and every other character as an escape of UTF-16 code units.
-/

namespace StoryAtlas.Json

open StoryAtlas.Text StoryAtlas.Number

/-- One UTF-16 code unit as an escape. -/
def unitEscape (unit : Nat) : List Char :=
  '\\' :: 'u' :: hex 4 unit

/-- One character of a string. -/
def writeChar (c : Char) : List Char :=
  if c = '"' then ['\\', '"']
  else if c = '\\' then ['\\', '\\']
  else if c = '\n' then ['\\', 'n']
  else if c = '\r' then ['\\', 'r']
  else if c = '\t' then ['\\', 't']
  else if c.toNat = 8 then ['\\', 'b']
  else if c.toNat = 12 then ['\\', 'f']
  else if 0x20 ≤ c.toNat ∧ c.toNat < 0x7F then [c]
  else if c.toNat < 0x10000 then unitEscape c.toNat
  else
    unitEscape (0xD800 + (c.toNat - 0x10000) / 0x400) ++
      unitEscape (0xDC00 + (c.toNat - 0x10000) % 0x400)

/-- A string between double quotes. -/
def writeString (s : String) : List Char :=
  '"' :: s.toList.flatMap writeChar ++ ['"']

/-- A whole number. -/
def writeInt (i : Int) : List Char :=
  (if i < 0 then ['-'] else []) ++ Nat.toDigits 10 i.natAbs

/-- The words for floating-point values that are not numbers. -/
def floatWords : Spelling := ⟨"NaN", "Infinity"⟩

mutual

/-- The text of a value. -/
def write : Json → List Char
  | null => ['n', 'u', 'l', 'l']
  | bool true => ['t', 'r', 'u', 'e']
  | bool false => ['f', 'a', 'l', 's', 'e']
  | int i => writeInt i
  | float x => x.text floatWords
  | str s => writeString s
  | arr items => '[' :: writeItems items ++ [']']
  | obj fields => '{' :: writeFields fields ++ ['}']

/-- The texts of array items with commas between them. -/
def writeItems : List Json → List Char
  | [] => []
  | [item] => write item
  | item :: items => write item ++ ',' :: ' ' :: writeItems items

/-- The texts of object fields with commas between them. -/
def writeFields : List (String × Json) → List Char
  | [] => []
  | [(key, value)] => writeString key ++ ':' :: ' ' :: write value
  | (key, value) :: fields =>
    writeString key ++ ':' :: ' ' :: write value ++ ',' :: ' ' :: writeFields fields

end

/-- The text of a value. -/
def render (value : Json) : String :=
  String.ofList value.write

end StoryAtlas.Json
