import StoryAtlas.Number.Binary64

/-!
# JSON values

Requests, replies and log records are JSON values. Whole numbers and floating-point numbers are kept
apart. The fields of an object stand in increasing order of their keys, so that two objects with the
same fields are equal.
-/

namespace StoryAtlas

open StoryAtlas.Number

/-- A JSON value. -/
inductive Json where
  | null
  | bool (b : Bool)
  | int (i : Int)
  | float (x : Binary64)
  | str (s : String)
  | arr (items : List Json)
  | obj (fields : List (String × Json))
  deriving Repr, Inhabited

/-- The fields of an object, in increasing order of their keys. -/
abbrev Fields := List (String × Json)

namespace Fields

/-- The value at a key. -/
def get? (fields : Fields) (key : String) : Option Json :=
  fields.lookup key

/-- Sets the value at a key. -/
def insert (key : String) (value : Json) : Fields → Fields
  | [] => [(key, value)]
  | (k, v) :: rest =>
    if key < k then (key, value) :: (k, v) :: rest
    else if key = k then (key, value) :: rest
    else (k, v) :: insert key value rest

/-- Drops a key. -/
def erase (fields : Fields) (key : String) : Fields :=
  fields.filter fun field => field.1 != key

/-- Sets fields one after the other, so that the last value of a key counts. -/
def insertAll (fields : Fields) (more : List (String × Json)) : Fields :=
  more.foldl (fun acc field => insert field.1 field.2 acc) fields

/-- The fields of a list of keys and values. -/
def ofList (fields : List (String × Json)) : Fields :=
  insertAll [] fields

end Fields

namespace Json

/-- The object with the given fields. -/
def object (fields : List (String × Json)) : Json :=
  obj (Fields.ofList fields)

/-- A text or `null`. -/
def ofOption : Option String → Json
  | none => null
  | some s => str s

/-- An array of texts. -/
def strings (items : List String) : Json :=
  arr (items.map str)

end Json

end StoryAtlas
