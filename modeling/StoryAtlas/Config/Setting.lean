import StoryAtlas.Number.Binary64

/-!
# Settings

A setting is a value as it stands in a configuration, before anything is known about its type. A
moment is a date, a time of day or both, kept as it was written.
-/

namespace StoryAtlas

open StoryAtlas.Number

/-- A value of a configuration. -/
inductive Setting where
  | null
  | bool (b : Bool)
  | int (i : Int)
  | real (x : Binary64)
  | text (s : String)
  | moment (written : String)
  | list (items : List Setting)
  | table (fields : List (String × Setting))
  deriving Repr, Inhabited

/-- The fields of a table. -/
abbrev Settings := List (String × Setting)

namespace Settings

/-- Replaces the value at a key, or adds it behind the others. -/
def set (key : String) (value : Setting) : Settings → Settings
  | [] => [(key, value)]
  | (k, v) :: rest => if k = key then (key, value) :: rest else (k, v) :: set key value rest

end Settings

/-- The text, if it is one. -/
def Setting.text? : Setting → Option String
  | text s => some s
  | _ => none

end StoryAtlas
