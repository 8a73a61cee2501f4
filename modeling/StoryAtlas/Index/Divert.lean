import StoryAtlas.Index.Scope

/-!
# Divert targets

From a line of a story, a divert can name any knot of the files in scope, any stitch of the knot
around the line, and any label of the stitch around the line, in this order of precedence.
-/

namespace StoryAtlas

open StoryAtlas.Story

/-- A knot, stitch or label of a file, by positions. -/
inductive Address where
  | knot (knot : Nat)
  | stitch (knot stitch : Nat)
  | label (knot stitch label : Nat)
  deriving DecidableEq, Repr

/-- Something that a divert can name. A target without a name cannot be named, but has a place. -/
structure Target where
  path : Path
  address : Address
  name : Option String
  line : Int
  deriving DecidableEq, Repr

/-- The kind of thing at an address. -/
def Address.kind : Address → String
  | knot _ => "knot"
  | stitch _ _ => "stitch"
  | label _ _ _ => "label"

/-- The knots of a file. -/
def knotTargets (file : StoryFile) : List Target :=
  file.outline.knots.zipIdx.map fun (knot, i) => ⟨file.path, .knot i, knot.name, knot.start⟩

/-- The stitches of the knot around a line. -/
def stitchTargets (around : Enclosing) : List Target :=
  around.knot.stitches.zipIdx.map fun (stitch, i) =>
    ⟨around.file.path, .stitch around.knotIndex i, stitch.name, stitch.start⟩

/-- The labels of the stitch around a line. -/
def labelTargets (around : Enclosing) : List Target :=
  around.stitch.labels.zipIdx.map fun (label, i) =>
    ⟨around.file.path, .label around.knotIndex around.stitchIndex i, some label.name, label.line⟩

/-- The place where something is defined. -/
structure Location where
  path : Path
  line : Int
  deriving DecidableEq, Repr

/-- A completion that is offered for a divert. -/
structure Candidate where
  name : String
  kind : String
  deriving DecidableEq, Repr

/-- The targets that need no definition. -/
def permanentDiverts : List Candidate :=
  ["END", "DONE", "->"].map fun name => ⟨name, "keyword"⟩

namespace Index

/-- The targets that a line can divert to, in order of precedence. -/
def diverts (index : Index) (p : Path) (line : Int) : List Target :=
  let knots := (index.includeScope p).flatMap fun path =>
    ((index.entry? path).map knotTargets).getD []
  match index.enclosing? p line with
  | none => knots
  | some around => knots ++ stitchTargets around ++ labelTargets around

/-- The first target with a name. The empty name is never defined. -/
def definition? (index : Index) (name : String) (p : Path) (line : Int) : Option Location :=
  if name = "" then none
  else
    ((index.diverts p line).find? fun target => target.name == some name).map fun target =>
      ⟨target.path, target.line⟩

/-- The targets with a name in order of precedence, and then those that need no definition. -/
def completions (index : Index) (p : Path) (line : Int) : List Candidate :=
  ((index.diverts p line).filterMap fun target =>
    target.name.map fun name => ⟨name, target.address.kind⟩) ++ permanentDiverts

end Index

end StoryAtlas
