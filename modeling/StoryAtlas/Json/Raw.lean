import StoryAtlas.Json.Basic

/-!
# JSON values as they are spelled

A JSON text can spell strings that are no texts, for an escape may name half a surrogate pair alone.
What is read from a text is therefore a value whose strings are lists of code points. It stands for
a JSON value if each of its strings is a text.
-/

namespace StoryAtlas

open StoryAtlas.Number

/-- Code points, among them perhaps halves of surrogate pairs. -/
abbrev Points := List Nat

namespace Points

/-- The code points of a text. -/
def ofText (s : String) : Points :=
  s.toList.map Char.toNat

/-- The character with a code point; half a surrogate pair has none. -/
def char? (point : Nat) : Option Char :=
  if point.isValidChar then some (Char.ofNat point) else none

/-- The text with the given code points. -/
def text? (points : Points) : Option String :=
  (points.mapM char?).map String.ofList

end Points

/-- A JSON value as it is spelled. The fields of an object stand in the order of their first
mention. -/
inductive RawJson where
  | null
  | bool (b : Bool)
  | int (i : Int)
  | float (x : Binary64)
  | str (points : Points)
  | arr (items : List RawJson)
  | obj (fields : List (Points × RawJson))
  deriving Repr, Inhabited

/-- The fields of an object as they are spelled. -/
abbrev RawFields := List (Points × RawJson)

namespace RawFields

/-- The value at a key. -/
def get? (fields : RawFields) (key : String) : Option RawJson :=
  fields.lookup (Points.ofText key)

/-- Sets the value at a key. A key that is there keeps its place. -/
def put (key : Points) (value : RawJson) : RawFields → RawFields
  | [] => [(key, value)]
  | (k, v) :: rest => if k = key then (key, value) :: rest else (k, v) :: put key value rest

end RawFields

namespace RawJson

mutual

/-- The value that is spelled, if all of its strings are texts. Of fields with one key the first
counts, as it does where a key is looked up. -/
def toJson? : RawJson → Option Json
  | null => some .null
  | bool b => some (.bool b)
  | int i => some (.int i)
  | float x => some (.float x)
  | str points => points.text?.map Json.str
  | arr items => (itemsToJson? items).map Json.arr
  | obj fields => (fieldsToJson? fields).map fun found => Json.object found.reverse

/-- The values of array items. -/
def itemsToJson? : List RawJson → Option (List Json)
  | [] => some []
  | item :: items =>
    match item.toJson?, itemsToJson? items with
    | some value, some values => some (value :: values)
    | _, _ => none

/-- The keys and values of object fields. -/
def fieldsToJson? : List (Points × RawJson) → Option (List (String × Json))
  | [] => some []
  | (key, value) :: fields =>
    match key.text?, value.toJson?, fieldsToJson? fields with
    | some key, some value, some fields => some ((key, value) :: fields)
    | _, _, _ => none

end

end RawJson

namespace Json

mutual

/-- The value as it is spelled with its fields in order. -/
def raw : Json → RawJson
  | null => .null
  | bool b => .bool b
  | int i => .int i
  | float x => .float x
  | str s => .str (Points.ofText s)
  | arr items => .arr (rawItems items)
  | obj fields => .obj (rawFields fields)

/-- Array items as they are spelled. -/
def rawItems : List Json → List RawJson
  | [] => []
  | item :: items => item.raw :: rawItems items

/-- Object fields as they are spelled. -/
def rawFields : List (String × Json) → RawFields
  | [] => []
  | (key, value) :: fields => (Points.ofText key, value.raw) :: rawFields fields

end

end Json

end StoryAtlas
