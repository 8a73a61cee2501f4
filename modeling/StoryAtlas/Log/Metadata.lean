import StoryAtlas.Json.Basic

/-!
# Metadata of a request

The audit log tells what a request asked for without repeating its texts. Paths, names and times are
kept; of any other text the length is kept, and of lists and objects the shape.
-/

namespace StoryAtlas

/-- The arguments whose texts are kept. -/
def isKeptText (key : String) : Bool :=
  key == "path" || key == "name" || key == "since"

/-- The fields that describe one argument. -/
def describeArgument (key : String) : Json → List (String × Json)
  | .str s =>
    if isKeptText key then [(key, .str s)]
    else [(key ++ "_present", .bool true), (key ++ "_length", .int s.length)]
  | .arr items => [(key ++ "_type", .str "list"), (key ++ "_length", .int items.length)]
  | .obj fields =>
    [(key ++ "_type", .str "dict"), (key ++ "_keys", .strings (fields.map Prod.fst))]
  | value => [(key, value)]

/-- The value is neither a text nor a list nor an object, so that it is kept as it is. -/
def isKeptValue : Json → Bool
  | .str _ => false
  | .arr _ => false
  | .obj _ => false
  | _ => true

/-- The arguments whose values are kept as they are. -/
def keptArguments (arguments : Fields) : Fields :=
  arguments.filter fun argument => isKeptValue argument.2

/-- The description of all arguments. Arguments are described in the order of their keys, and of two
descriptions of one field the later counts. -/
def describeArguments (arguments : Fields) : Fields :=
  Fields.ofList (arguments.flatMap fun argument => describeArgument argument.1 argument.2)

end StoryAtlas
