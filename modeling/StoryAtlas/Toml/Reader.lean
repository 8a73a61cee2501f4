import StoryAtlas.Toml.Document
import StoryAtlas.Toml.Lexeme

/-!
# Reading TOML

A text is TOML or it is not: the reader answers with the root table of the document or with nothing.
Every step consumes a character, so that the length of the text bounds the number of steps.
-/

namespace StoryAtlas.Toml

mutual

/-- Reads a value. -/
def readValue? : Nat → List Char → Option (Setting × List Char)
  | 0, _ => none
  | fuel + 1, cs =>
    match cs with
    | '"' :: _ => (readString? cs).map fun found => (.text (String.ofList found.1), found.2)
    | '\'' :: _ => (readString? cs).map fun found => (.text (String.ofList found.1), found.2)
    | 't' :: 'r' :: 'u' :: 'e' :: rest => some (.bool true, rest)
    | 'f' :: 'a' :: 'l' :: 's' :: 'e' :: rest => some (.bool false, rest)
    | '[' :: rest => (readItems? fuel rest).map fun found => (.list found.1, found.2)
    | '{' :: rest =>
      match skipBlanks rest with
      | '}' :: rest => some (.table [], rest)
      | rest => readInline? fuel ⟨[], []⟩ rest
    | _ => readNumber? cs

/-- Reads array items up to the closing bracket; a comma may stand in front of it. -/
def readItems? : Nat → List Char → Option (List Setting × List Char)
  | 0, _ => none
  | fuel + 1, cs =>
    match skipFiller cs.length cs with
    | none => none
    | some (']' :: rest) => some ([], rest)
    | some cs =>
      match readValue? fuel cs with
      | none => none
      | some (item, rest) =>
        match skipFiller rest.length rest with
        | some (']' :: rest) => some ([item], rest)
        | some (',' :: rest) =>
          (readItems? fuel rest).map fun found => (item :: found.1, found.2)
        | _ => none

/-- Reads the fields of an inline table up to the closing brace; `table` holds those read so far. -/
def readInline? : Nat → Inline → List Char → Option (Setting × List Char)
  | 0, _, _ => none
  | fuel + 1, table, cs =>
    match readPair? fuel cs with
    | none => none
    | some (key, value, rest) =>
      match table.add key value with
      | none => none
      | some table =>
        match skipBlanks rest with
        | '}' :: rest => some (.table table.fields, rest)
        | ',' :: rest => readInline? fuel table (skipBlanks rest)
        | _ => none

/-- Reads a key, an equals sign and a value. -/
def readPair? : Nat → List Char → Option (Key × Setting × List Char)
  | 0, _ => none
  | fuel + 1, cs =>
    match readKey? (cs.length + 1) cs with
    | some (key, '=' :: rest) =>
      (readValue? fuel (skipBlanks rest)).map fun found => (key, found.1, found.2)
    | _ => none

end

/-- Reads the key of a header and the brackets behind it. -/
def readHeader? (brackets : Nat) (cs : List Char) : Option (Key × List Char) :=
  match readKey? (cs.length + 1) (skipBlanks cs) with
  | none => none
  | some (key, rest) =>
    if (List.replicate brackets ']').isPrefixOf rest then some (key, rest.drop brackets) else none

/-- Reads one statement that starts with the first character. -/
def readStatement? (doc : Document) : List Char → Option (Document × List Char)
  | '[' :: '[' :: cs =>
    match readHeader? 2 cs with
    | none => none
    | some (key, rest) => (doc.declareArrayTable key).map fun doc => (doc, rest)
  | '[' :: cs =>
    match readHeader? 1 cs with
    | none => none
    | some (key, rest) => (doc.declareTable key).map fun doc => (doc, rest)
  | '#' :: cs => some (doc, '#' :: cs)
  | cs =>
    match readPair? (2 * cs.length + 2) cs with
    | none => none
    | some (key, value, rest) => (doc.setValue key value).map fun doc => (doc, rest)

/-- Reads statements, each followed by a comment or nothing up to the end of its line. -/
def readStatements? : Nat → Document → List Char → Option Document
  | 0, _, _ => none
  | fuel + 1, doc, cs =>
    match skipBlanks cs with
    | [] => some doc
    | '\n' :: rest => readStatements? fuel doc rest
    | cs =>
      match readStatement? doc cs with
      | none => none
      | some (doc, rest) =>
        match skipComment (skipBlanks rest) with
        | none => none
        | some [] => some doc
        | some ('\n' :: rest) => readStatements? fuel doc rest
        | some _ => none

/-- Writes every line end of two characters as a line feed. -/
def joinLineEnds : List Char → List Char
  | [] => []
  | '\r' :: '\n' :: cs => '\n' :: joinLineEnds cs
  | c :: cs => c :: joinLineEnds cs

/-- The root table of a TOML text. -/
def parse? (text : String) : Option Settings :=
  let cs := joinLineEnds text.toList
  (readStatements? (cs.length + 1) Document.empty cs).map Document.root

end StoryAtlas.Toml
