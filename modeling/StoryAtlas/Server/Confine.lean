import StoryAtlas.Disk.Resolve
import StoryAtlas.Text.Blank

/-!
# Paths within the project

A request names files by paths of its own choice. Only paths that lead below the project root are
let through, whatever links are on the way.
-/

namespace StoryAtlas

open StoryAtlas.Disk

/-- Why a path is refused. -/
inductive PathRefusal where
  | empty
  | absoluteOutside
  | traversal
  | escapes
  deriving DecidableEq, Repr

/-- The wording of the reason. -/
def PathRefusal.reason : PathRefusal → String
  | empty => "Path is empty."
  | absoluteOutside => "Absolute path is outside project_root."
  | traversal => "Path traversal is blocked."
  | escapes => "Resolved path escapes project_root."

/-- What the sender can do about it. -/
def PathRefusal.hint : PathRefusal → String
  | empty => "Provide a project-relative path such as 'story/main.ink'."
  | absoluteOutside => "Use a path located under the configured project root."
  | traversal => "Remove '..' segments and use a project-relative path."
  | escapes => "Use a path located under the configured project root."

/-- A path was refused, or the disk could not be asked. -/
inductive PathError where
  | refused (refusal : PathRefusal)
  | disk (fault : Fault)
  deriving DecidableEq, Repr

/-- Backslashes separate components, too. -/
def forwardSlashes (s : String) : String :=
  String.ofList (s.toList.map fun c => if c = '\\' then '/' else c)

/-- A drive letter with a colon and a slash. -/
def hasDrive : List Char → Bool
  | c :: ':' :: '/' :: _ => c.isAlpha
  | _ => false

/-- Resolves a path and refuses it if it does not lie within `root`. -/
def admitWithin (disk : Disk) (root p : Path) (refusal : PathRefusal) :
    Except PathError Path :=
  match disk.resolve p with
  | .error e => .error (.disk e)
  | .ok resolved => if root.isWithin resolved then .ok resolved else .error (.refused refusal)

/-- Lets a path through if it leads below a resolved root. A relative path is seen from the root and
must not climb; an absolute path, or one with a drive letter, may climb on its way. -/
def confineBelow (disk : Disk) (root : Path) (candidate : String) : Except PathError Path :=
  let text := forwardSlashes candidate
  let p := Path.ofString text
  if Text.isBlankText text then .error (.refused .empty)
  else if p.anchor ≠ .relative ∨ hasDrive text.toList then
    admitWithin disk root p .absoluteOutside
  else if p.parts.contains ".." then .error (.refused .traversal)
  else admitWithin disk root (root.under p) .escapes

/-- Lets a path through if it leads below the project root. -/
def confine (disk : Disk) (projectRoot : Path) (candidate : String) : Except PathError Path :=
  match disk.resolve projectRoot with
  | .error e => .error (.disk e)
  | .ok root => confineBelow disk root candidate

end StoryAtlas
