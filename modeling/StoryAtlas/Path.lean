import StoryAtlas.Text.Split

/-!
# Paths

A path is an anchor and a list of components. Reading a path drops empty and `.` components and
keeps `..`; the canonical form of a path is absolute and has no `..` either, so two spellings of
one place that differ only in such components have one canonical form. Symbolic links play no part
here.
-/

namespace StoryAtlas

/-- How a path starts: without a slash, at the root, or at the second root that exactly two leading
slashes name. -/
inductive Anchor where
  | relative
  | root
  | doubleRoot
  deriving DecidableEq, Repr, Inhabited

/-- A path by its anchor and its components. -/
structure Path where
  anchor : Anchor
  parts : List String
  deriving DecidableEq, Repr, Inhabited

namespace Anchor

/-- The slashes that the anchor stands for. -/
def text : Anchor → String
  | relative => ""
  | root => "/"
  | doubleRoot => "//"

/-- Reads the leading slashes: exactly two are kept apart, more count as one. -/
def ofChars : List Char → Anchor
  | '/' :: '/' :: '/' :: _ => root
  | '/' :: '/' :: _ => doubleRoot
  | '/' :: _ => root
  | _ => relative

end Anchor

namespace Path

/-- A component that names something: neither empty nor `.`. -/
def isSolid (part : String) : Bool :=
  part != "" && part != "."

/-- Reads a path. -/
def ofString (s : String) : Path :=
  ⟨Anchor.ofChars s.toList, (Text.splitText '/' s).filter isSolid⟩

/-- Writes a path; the relative path without components is `.`. -/
def render (p : Path) : String :=
  if p.anchor = .relative ∧ p.parts = [] then "."
  else p.anchor.text ++ String.intercalate "/" p.parts

/-- `p` seen from `base`: an anchored path stays as it is. -/
def under (base p : Path) : Path :=
  if p.anchor = .relative then ⟨base.anchor, base.parts ++ p.parts⟩ else p

/-- One more component. -/
def child (p : Path) (name : String) : Path :=
  ⟨p.anchor, p.parts ++ [name]⟩

/-- The enclosing directory; a path without components encloses itself. -/
def parent (p : Path) : Path :=
  ⟨p.anchor, p.parts.dropLast⟩

/-- Climbs out of the last directory on the stack, whose top is the head of the list. -/
def push (stack : List String) (part : String) : List String :=
  if part = ".." then stack.tail else part :: stack

/-- Components without `..`: each one climbs out of the component before it, and stays at the root
where there is none. -/
def climb (parts : List String) : List String :=
  (parts.foldl push []).reverse

/-- The absolute form without `..` of a path seen from the directory `cwd`. -/
def canonical (cwd p : Path) : Path :=
  ⟨(cwd.under p).anchor, climb (cwd.under p).parts⟩

/-- `p` is `root` or lies below it, component by component. -/
def isWithin (root p : Path) : Bool :=
  root.anchor == p.anchor && root.parts.isPrefixOf p.parts

/-- The part of `p` below `root`, for `p` within `root`. -/
def below (root p : Path) : Path :=
  ⟨.relative, p.parts.drop root.parts.length⟩

/-- The extension of a file name with its dot: empty where the last dot begins or ends the name. -/
def extensionOf (name : List Char) : List Char :=
  let tail := (name.reverse.takeWhile (· != '.')).reverse
  if tail.isEmpty || name.length ≤ tail.length + 1 then [] else '.' :: tail

/-- The extension of the last component. -/
def fileExtension (p : Path) : String :=
  String.ofList (extensionOf ((p.parts.getLast?.getD "").toList))

@[simp] theorem climb_nil : climb [] = [] := rfl

theorem push_of_ne {part : String} (h : part ≠ "..") (stack : List String) :
    push stack part = part :: stack := by
  simp [push, h]

theorem foldl_push_of_forall_ne (parts stack : List String) (h : ∀ part ∈ parts, part ≠ "..") :
    parts.foldl push stack = parts.reverse ++ stack := by
  induction parts generalizing stack with
  | nil => rfl
  | cons part parts ih =>
    have hpart : part ≠ ".." := h part (by simp)
    rw [List.foldl_cons, push_of_ne hpart, ih _ fun q hq => h q (by simp [hq])]
    simp

/-- Components without `..` are left as they are. -/
theorem climb_of_forall_ne {parts : List String} (h : ∀ part ∈ parts, part ≠ "..") :
    climb parts = parts := by
  simp [climb, foldl_push_of_forall_ne parts [] h]

end Path

end StoryAtlas
