import StoryAtlas.Disk.Lookup

/-!
# Resolving links

`resolve` turns a path into the absolute path without symbolic links that leads to the same
place. Names that do not exist are kept. Where links run in a circle, the rest of the path stays
as it is, and the result is refused if the circle is still on it. Links that are nested deeper than
the stack has room for are refused.
-/

namespace StoryAtlas.Disk

/-- The links met so far: each with the path it leads to, or nothing while that is being found. -/
abbrev Seen := List (Path × Option Path)

/-- A path whose links are all replaced, or one on which a circle of links was met. -/
inductive Resolution where
  | full (path : Path) (seen : Seen)
  | circle (path : Path)

/-- One directory up. Above a relative path without names there are only more `..`. -/
def up (p : Path) : Path :=
  if p.anchor = .relative ∧ (p.parts = [] ∨ p.parts.getLast? = some "..") then p.child ".."
  else p.parent

/-- A path followed by components that have not been looked at. -/
def followedBy (p : Path) (rest : List String) : Path :=
  p.under (Path.ofString (String.intercalate "/" rest))

/-- Resolves `names` from the resolved path `here`. A link that is met for the first time is handed
to `expand`. -/
def resolveWith (disk : Disk) (expand : Seen → Path → List String → Except Fault Resolution)
    (seen : Seen) (here : Path) : List String → Except Fault Resolution
  | [] => .ok (.full here seen)
  | name :: rest =>
    if name = "" ∨ name = "." then resolveWith disk expand seen here rest
    else if name = ".." then resolveWith disk expand seen (up here) rest
    else
      let next := here.child name
      match disk.nodeAt .entry next with
      | .error .nulInPath => .error .nulInPath
      | .ok (.link target) =>
        match seen.lookup next with
        | some (some known) => resolveWith disk expand seen known rest
        | some none => .ok (.circle (followedBy next rest))
        | none =>
          let start := if Anchor.ofChars target.toList = .relative then here else ⟨.root, []⟩
          match expand ((next, none) :: seen) start (targetParts target) with
          | .error e => .error e
          | .ok (.circle path) => .ok (.circle (followedBy path rest))
          | .ok (.full path seen) =>
            resolveWith disk expand ((next, some path) :: seen) path rest
      | _ => resolveWith disk expand seen next rest

/-- Resolves with room for so many links within each other. -/
def resolveWithin (disk : Disk) : Nat → Seen → Path → List String → Except Fault Resolution
  | 0 => fun _ _ _ => .error .linksTooDeep
  | room + 1 => resolveWith disk (resolveWithin disk room)

/-- The path without links that a resolution stands for, seen from the current directory. -/
def absoluteOf (disk : Disk) : Resolution → Path
  | .full path _ => Path.canonical disk.cwd path
  | .circle path => Path.canonical disk.cwd path

/-- The absolute path without links that leads where `p` leads. -/
def resolve (disk : Disk) (p : Path) : Except Fault Path :=
  let start : Path := if p.anchor = .relative then ⟨.relative, []⟩ else ⟨.root, []⟩
  match resolveWithin disk (disk.linkRoom + 1) [] start p.parts with
  | .error e => .error e
  | .ok found =>
    let path := disk.absoluteOf found
    match disk.nodeAt .target path with
    | .error (.os .tooManyLinks) => .error .linkLoop
    | .error .nulInPath => .error .nulInPath
    | _ => .ok path

end StoryAtlas.Disk
