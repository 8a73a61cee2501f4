/-!
# Toolboxes

A toolbox holds tools by name, in the order in which they were registered. A name is registered at
most once.
-/

namespace StoryAtlas

/-- Tools of a type `α` by name. -/
structure Toolbox (α : Type) where
  tools : List (String × α)

namespace Toolbox

variable {α : Type}

/-- The toolbox without tools. -/
def empty : Toolbox α := ⟨[]⟩

/-- The tool with a name. -/
def get? (box : Toolbox α) (name : String) : Option α :=
  box.tools.lookup name

/-- Adds a tool, unless there is one of this name. -/
def register? (box : Toolbox α) (name : String) (tool : α) : Option (Toolbox α) :=
  if (box.get? name).isSome then none else some ⟨box.tools ++ [(name, tool)]⟩

/-- The names in the order of registration. -/
def names (box : Toolbox α) : List String :=
  box.tools.map Prod.fst

/-- The message for a name that is already taken. -/
def takenMessage (name : String) : String :=
  "Tool already registered: " ++ name

/-- The message for a name without a tool. -/
def unknownMessage (name : String) : String :=
  "Unknown tool: " ++ name

/-- The code of the error for a name without a tool. -/
def unknownCode : String := "UNKNOWN_TOOL"

end Toolbox

end StoryAtlas
