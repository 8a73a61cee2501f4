import StoryAtlas.Json.Limits

/-!
# Faults of the disk

What can go wrong when a path is looked up, read or written.
-/

namespace StoryAtlas.Disk

/-- The refusals of the operating system. -/
inductive OsError where
  | notFound
  | notDirectory
  | isDirectory
  | alreadyExists
  | nameTooLong
  | tooManyLinks
  deriving DecidableEq, Repr, Inhabited

/-- The operating system's wording. -/
def OsError.message : OsError → String
  | notFound => "No such file or directory"
  | notDirectory => "Not a directory"
  | isDirectory => "Is a directory"
  | alreadyExists => "File exists"
  | nameTooLong => "File name too long"
  | tooManyLinks => "Too many levels of symbolic links"

/-- What stops an operation on the disk: a refusal, a path with a NUL character, which never reaches
the operating system, a path whose links run in a circle or lie deeper within each other than the
stack has room for, bytes that are no text, more records asked for than can be counted, or a value
that can be neither read nor written. -/
inductive Fault where
  | os (error : OsError)
  | nulInPath
  | linkLoop
  | linksTooDeep
  | notUtf8
  | limitTooLarge
  | json (refusal : Json.Refusal)
  deriving DecidableEq, Repr, Inhabited

/-- The wording of a fault. -/
def Fault.message : Fault → String
  | os error => error.message
  | nulInPath => "embedded null byte"
  | linkLoop => "Symlink loop"
  | linksTooDeep => "Too many links within each other."
  | notUtf8 => "Invalid UTF-8."
  | limitTooLarge => "Limit is too large."
  | json refusal => refusal.message

end StoryAtlas.Disk
