import StoryAtlas.Disk.Lookup

/-!
# Reading story files from disk

A story file has to fit the size limit, must not hold a NUL byte and has to be UTF-8, with or
without a byte-order mark, which is dropped. The first of these that fails is the reason why a file
cannot be read.
-/

namespace StoryAtlas

open StoryAtlas.Disk

/-- Why a story file cannot be read. -/
inductive ReadFailure where
  | os (error : OsError)
  | tooLarge
  | binary
  | notUtf8
  deriving DecidableEq, Repr, Inhabited

/-- The wording of the reason. -/
def ReadFailure.reason : ReadFailure → String
  | os error => error.message
  | tooLarge => "File exceeds max_file_bytes limit."
  | binary => "File looks binary."
  | notUtf8 => "File is not valid UTF-8."

/-- The message for the file that was asked for. -/
def ReadFailure.message (path : String) (failure : ReadFailure) : String :=
  path ++ ": " ++ failure.reason

/-- Drops a byte-order mark in front. -/
def dropMark (text : String) : String :=
  match text.toList with
  | c :: cs => if c = Char.ofNat 0xFEFF then String.ofList cs else text
  | [] => text

/-- The text of a story by its bytes. -/
def decodeStory (maxBytes : Int) (content : ByteArray) : Except ReadFailure String :=
  if maxBytes < (content.size : Int) then .error .tooLarge
  else if content.data.contains 0 then .error .binary
  else
    match String.fromUTF8? content with
    | some text => .ok (dropMark text)
    | none => .error .notUtf8

/-- Reads a story file. A path with a NUL character cannot even be asked for. -/
def Disk.readStory (disk : Disk) (maxBytes : Int) (p : Path) :
    Except Fault (Except ReadFailure String) :=
  match disk.readBytes p with
  | .ok content => .ok (decodeStory maxBytes content)
  | .error (.os e) => .ok (.error (.os e))
  | .error e => .error e

end StoryAtlas
