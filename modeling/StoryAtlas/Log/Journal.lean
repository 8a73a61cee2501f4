import StoryAtlas.Disk.Change
import StoryAtlas.Json.Reader
import StoryAtlas.Json.Writer
import StoryAtlas.Text.Blank
import StoryAtlas.Text.Split

/-!
# Journals

A journal is a file with one JSON object on each line. Records are added at its end. A line that is
not a JSON object, for instance a blank one, is passed over when the journal is read, and any of the
three line endings ends a line. A line beyond the limits of the interpreter is not passed over: it
stops the reading, as it stops the writing of a record.
-/

namespace StoryAtlas.Journal

open StoryAtlas.Disk

/-- Makes the directory of a journal. -/
def create (disk : Disk) (file : Path) : Except Fault Disk :=
  disk.ensureDirs file.parent

/-- Adds a record. Of what it says, the fields in `given` come from elsewhere and may be beyond the
limits; its own numbers are counts, which have few digits. -/
def append (room : Nat) (disk : Disk) (file : Path) (given : Fields) (record : Json) :
    Except Fault Disk :=
  match given.refusal? (.within room) with
  | some refusal => .error (.json refusal)
  | none => disk.append file (record.render ++ "\n").toUTF8

/-- Writes every line ending as a line feed. -/
def joinLineEnds : List Char → List Char
  | [] => []
  | '\r' :: '\n' :: cs => '\n' :: joinLineEnds cs
  | '\r' :: cs => '\n' :: joinLineEnds cs
  | c :: cs => c :: joinLineEnds cs

/-- The object on a line, if there is one. -/
def recordOn (room : Nat) (line : List Char) : Except Json.Refusal (Option RawFields) :=
  match Json.parseChars (.within room) (Text.trimBlanks line) with
  | .ok (.obj fields) => .ok (some fields)
  | .ok _ => .ok none
  | .error .notJson => .ok none
  | .error (.refused refusal) => .error refusal

/-- The objects on lines, up to the first line that is refused. -/
def recordsOn (room : Nat) : List (List Char) → Except Json.Refusal (List RawFields)
  | [] => .ok []
  | line :: lines =>
    match recordOn room line with
    | .error refusal => .error refusal
    | .ok found => (recordsOn room lines).map fun others => found.toList ++ others

/-- The records of a text. -/
def records (room : Nat) (text : String) : Except Json.Refusal (List RawFields) :=
  recordsOn room (Text.split '\n' (joinLineEnds text.toList))

/-- The record has a timestamp that is not before the given one. -/
def isSince (since : String) (record : RawFields) : Bool :=
  match record.get? "timestamp" with
  | some (.str timestamp) => !decide (timestamp < Points.ofText since)
  | _ => false

/-- The records that are not before the given time, if one is given. -/
def select (since : Option String) (found : List RawFields) : List RawFields :=
  match since with
  | none => found
  | some since => found.filter (isSince since)

/-- The newest records, at most `limit` of them, the oldest first. -/
def newest (limit : Int) (found : List RawFields) : List RawFields :=
  found.drop (found.length - limit.toNat)

/-- The largest number of records that can be asked for. -/
def maxLimit : Int := 9223372036854775807

/-- Reads the newest records since a time. There are none in a journal without a file. -/
def read (room : Nat) (disk : Disk) (file : Path) (since : Option String) (limit : Int) :
    Except Fault (List RawFields) :=
  if limit < 1 then .ok []
  else
    match disk.hasNode file with
    | .error e => .error e
    | .ok false => .ok []
    | .ok true =>
      if maxLimit < limit then .error .limitTooLarge
      else
        match disk.readText file with
        | .error e => .error e
        | .ok text =>
          match records room text with
          | .error refusal => .error (.json refusal)
          | .ok found => .ok (newest limit (select since found))

/-- The number of records that are read where nothing is said. -/
def defaultLimit : Int := 50

end StoryAtlas.Journal
