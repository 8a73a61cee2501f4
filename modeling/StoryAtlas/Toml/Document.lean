import StoryAtlas.Config.Setting

/-!
# TOML documents

A document grows by statements: a table header, a header that adds a table to an array, and a value
for a key. A table may be declared by one header only, a value is never replaced, and a table or
array that was written as a value is closed against later statements.
-/

namespace StoryAtlas.Toml

/-- A dotted key. -/
abbrev Key := List String

/-- Changes the table at a key, which is created where it is missing. In an array of tables the
last one is meant, if `arrays` allows it. There is no answer where the key leads to another value,
or where the change has none. -/
def alterTable (arrays : Bool) (change : Settings → Option Settings) :
    Key → Settings → Option Settings
  | [], table => change table
  | k :: rest, table =>
    match table.lookup k with
    | none => (alterTable arrays change rest []).map fun inner => table.set k (.table inner)
    | some (.table inner) =>
      (alterTable arrays change rest inner).map fun inner => table.set k (.table inner)
    | some (.list items) =>
      match arrays, items.getLast? with
      | true, some (.table inner) =>
        (alterTable arrays change rest inner).map fun inner =>
          table.set k (.list (items.dropLast ++ [.table inner]))
      | _, _ => none
    | some _ => none

/-- Adds a value that is not there yet. -/
def addValue (key : String) (value : Setting) (table : Settings) : Option Settings :=
  if (table.lookup key).isSome then none else some (table.set key value)

/-- Adds an empty table to the array at a key, which is created where it is missing. -/
def addToArray (key : String) (table : Settings) : Option Settings :=
  match table.lookup key with
  | none => some (table.set key (.list [.table []]))
  | some (.list items) => some (table.set key (.list (items ++ [.table []])))
  | some _ => none

/-- The document so far. `declared` are the tables that no further header may declare, `dotted`
those that the statements since the last header add to them, `closed` the tables and arrays that
were written as values, and `header` is the table to which statements add. -/
structure Document where
  root : Settings
  declared : List Key
  dotted : List Key
  closed : List Key
  header : Key
  deriving Inhabited

namespace Document

/-- The document without statements. -/
def empty : Document := ⟨[], [], [], [], []⟩

/-- The key lies in a table or array that was written as a value. -/
def isClosed (doc : Document) (key : Key) : Bool :=
  doc.closed.any fun k => k.isPrefixOf key

/-- Ends the statements under the current header. -/
def endSection (doc : Document) : Document :=
  { doc with declared := doc.declared ++ doc.dotted, dotted := [] }

/-- Declares a table. -/
def declareTable (doc : Document) (key : Key) : Option Document :=
  let doc := doc.endSection
  if doc.declared.contains key || doc.isClosed key then none
  else
    (alterTable true some key doc.root).map fun root =>
      { doc with root := root, declared := key :: doc.declared, header := key }

/-- Adds a table to an array of tables. What was declared in the table before it is free again. -/
def declareArrayTable (doc : Document) (key : Key) : Option Document :=
  let doc := doc.endSection
  if doc.isClosed key then none
  else
    match key.getLast? with
    | none => none
    | some name =>
      (alterTable true (addToArray name) key.dropLast doc.root).map fun root =>
        { doc with
          root := root
          declared := key :: doc.declared.filter fun k => !key.isPrefixOf k
          closed := doc.closed.filter fun k => !key.isPrefixOf k
          header := key }

/-- A table or an array. -/
def isContainer : Setting → Bool
  | .table _ => true
  | .list _ => true
  | _ => false

/-- The proper beginnings of a key that are not empty. -/
def beginnings (key : Key) : List Key :=
  (List.range (key.length - 1)).map fun i => key.take (i + 1)

/-- Sets the value of a key under the current header. The tables on the way of a dotted key must not
have been declared by a header. -/
def setValue (doc : Document) (key : Key) (value : Setting) : Option Document :=
  let onTheWay := (beginnings key).map (doc.header ++ ·)
  let parent := doc.header ++ key.dropLast
  if onTheWay.any doc.declared.contains || doc.isClosed parent then none
  else
    match key.getLast? with
    | none => none
    | some name =>
      (alterTable true (addValue name value) parent doc.root).map fun root =>
        { doc with
          root := root
          dotted := doc.dotted ++ onTheWay
          closed := if isContainer value then (doc.header ++ key) :: doc.closed else doc.closed }

end Document

/-- The inline table so far, with the keys of the containers in it. -/
structure Inline where
  fields : Settings
  closed : List Key

/-- Adds a value to an inline table. -/
def Inline.add (table : Inline) (key : Key) (value : Setting) : Option Inline :=
  if table.closed.any fun k => k.isPrefixOf key then none
  else
    match key.getLast? with
    | none => none
    | some name =>
      (alterTable false (addValue name value) key.dropLast table.fields).map fun fields =>
        ⟨fields, if Document.isContainer value then key :: table.closed else table.closed⟩

end StoryAtlas.Toml
