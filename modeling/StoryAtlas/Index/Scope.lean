import StoryAtlas.Index.Basic

/-!
# Scope

The scope of a file is the file itself and everything it includes, directly or through other files,
as far as the index knows them. Files come in the order of a depth-first walk that follows includes
in the order of their declaration, each file once.
-/

namespace StoryAtlas

open StoryAtlas.Story

namespace Index

/-- Walks on from the files that are still to be visited, behind those already in scope. -/
def scopeFrom (index : Index) : Nat → List Path → List Path → List Path
  | 0, scope, _ => scope
  | _ + 1, scope, [] => scope
  | fuel + 1, scope, path :: pending =>
    if scope.contains path then scopeFrom index fuel scope pending
    else
      match index.entry? path with
      | none => scopeFrom index fuel scope pending
      | some file => scopeFrom index fuel (scope ++ [path]) (file.includes ++ pending)

/-- Each file adds its includes once, which bounds the number of files that are ever pending. -/
def scopeSteps (index : Index) : Nat :=
  (index.files.flatMap fun entry => entry.2.includes).length + 1

/-- The files in scope of a file, the file itself first; nothing if the index does not know it. -/
def includeScope (index : Index) (p : Path) : List Path :=
  index.scopeFrom index.scopeSteps [] [index.key p]

end Index

/-- A stitch of a known file, by its position. -/
structure Enclosing where
  file : StoryFile
  knotIndex : Nat
  stitchIndex : Nat
  knot : Knot
  stitch : Stitch
  deriving Repr

/-- The knot and the stitch of a file whose ranges contain a line. -/
def Story.StoryFile.enclosing? (file : StoryFile) (line : Int) : Option Enclosing :=
  match file.outline.knots.zipIdx.find? fun found => found.1.contains line with
  | none => none
  | some (knot, knotIndex) =>
    match knot.stitches.zipIdx.find? fun found => found.1.contains line with
    | none => none
    | some (stitch, stitchIndex) => some ⟨file, knotIndex, stitchIndex, knot, stitch⟩

/-- The knot and the stitch around a line of a known file. -/
def Index.enclosing? (index : Index) (p : Path) (line : Int) : Option Enclosing :=
  match index.get? p with
  | none => none
  | some file => file.enclosing? line

end StoryAtlas
