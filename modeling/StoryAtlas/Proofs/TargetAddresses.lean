import StoryAtlas.Proofs.NamedTargets
import StoryAtlas.Proofs.ScopePreorder

/-!
# Addresses of targets

A target names a file and positions in its outline instead of holding what it stands for. The
positions are in range in the file that the index knows by this path, and lead to a knot, a stitch
or a label with the name and the line of the target. No two targets of a line share their address,
and the targets are listed position by position: the knots of the files in scope, the stitches of
one knot and the labels of one of its stitches.
-/

namespace StoryAtlas.Proofs
open StoryAtlas.Story

/-- The name and the line of what stands at an address of an outline, if the positions that the kind
of the address asks for are in range. -/
def partAt? (outline : Outline) : Address → Option (Option String × Int)
  | .knot i => outline.knots[i]?.map fun knot => (knot.name, knot.start)
  | .stitch i j => (outline.knots[i]?.bind fun knot => knot.stitches[j]?).map fun stitch =>
      (stitch.name, stitch.start)
  | .label i j n => ((outline.knots[i]?.bind fun knot => knot.stitches[j]?).bind fun stitch =>
      stitch.labels[n]?).map fun label => (some label.name, label.line)

/-- The target lies in the file, and stands for what its address leads to there. -/
structure PointsInto (file : StoryFile) (target : Target) : Prop where
  path : target.path = file.path
  part : partAt? file.outline target.address = some (target.name, target.line)

/-- The file and the address of a target. -/
def place (target : Target) : Path × Address :=
  (target.path, target.address)

/-- The first `n` addresses of one kind in a file. -/
def places (k : Path) (address : Nat → Address) (n : Nat) : List (Path × Address) :=
  (List.range n).map fun i => (k, address i)

/-- The knots of the files in scope. -/
def knotPlaces (index : Index) (p : Path) : List (Path × Address) :=
  (index.includeScope p).flatMap fun q =>
    places q .knot ((index.entry? q).elim 0 fun file => file.outline.knots.length)

/-! ### Lists of targets -/

section Listed

variable {α : Type} (k : Path) (address : Nat → Address) (name : α → Option String)
  (start : α → Int) (xs : List α)

lemma map_place_listed : (listed k address name start xs).map place =
    places k address xs.length := by
  have hsnd : xs.zipIdx.map Prod.snd = List.range xs.length := by
    rw [List.zipIdx_map_snd, List.range_eq_range']
  rw [listed, places, ← hsnd, List.map_map, List.map_map]
  rfl

lemma getElem?_of_mem_listed {target : Target} (h : target ∈ listed k address name start xs) :
    ∃ i x, xs[i]? = some x ∧ target = ⟨k, address i, name x, start x⟩ := by
  obtain ⟨⟨x, i⟩, hmem, rfl⟩ := List.mem_map.mp h
  exact ⟨i, x, List.mem_zipIdx_iff_getElem?.mp hmem, rfl⟩

end Listed

lemma pointsInto_knotTargets (file : StoryFile) (target : Target) (h : target ∈ knotTargets file) :
    PointsInto file target := by
  rw [knotTargets_eq_listed] at h
  obtain ⟨i, knot, hi, rfl⟩ := getElem?_of_mem_listed _ _ _ _ _ h
  exact ⟨rfl, by simp [partAt?, hi]⟩

section Around

variable {file : StoryFile} {line : Int} {around : Enclosing}

lemma pointsInto_stitchTargets (h : Encloses file line around) (target : Target)
    (htarget : target ∈ stitchTargets around) : PointsInto file target := by
  rw [stitchTargets_eq_listed, h.file_eq] at htarget
  obtain ⟨j, stitch, hj, rfl⟩ := getElem?_of_mem_listed _ _ _ _ _ htarget
  exact ⟨rfl, by simp [partAt?, h.knot, hj]⟩

lemma pointsInto_labelTargets (h : Encloses file line around) (target : Target)
    (htarget : target ∈ labelTargets around) : PointsInto file target := by
  rw [labelTargets_eq_listed, h.file_eq] at htarget
  obtain ⟨n, label, hn, rfl⟩ := getElem?_of_mem_listed _ _ _ _ _ htarget
  exact ⟨rfl, by simp [partAt?, h.knot, h.stitch, hn]⟩

end Around

/-! ### Distinct places -/

lemma nodup_places (k : Path) (address : Nat → Address) (n : Nat)
    (haddress : Function.Injective address) : (places k address n).Nodup := by
  apply List.Nodup.map _ List.nodup_range
  intro i j hij
  exact haddress (Prod.mk.inj hij).2

lemma eq_of_mem_places {k : Path} {address : Nat → Address} {n : Nat} {spot : Path × Address}
    (h : spot ∈ places k address n) : ∃ i, spot = (k, address i) := by
  obtain ⟨i, _, rfl⟩ := List.mem_map.mp h
  exact ⟨i, rfl⟩

lemma nodup_knotPlaces (index : Index) (p : Path) : (knotPlaces index p).Nodup := by
  have hscope := scopeLoop_nodup (scopeLoop_includeScope index p) List.nodup_nil
  rw [knotPlaces, List.nodup_flatMap]
  refine ⟨fun q _ => nodup_places q .knot _ fun i j hij => Address.knot.inj hij, ?_⟩
  apply List.Pairwise.imp _ hscope
  intro q r hne spot hq hr
  obtain ⟨i, rfl⟩ := eq_of_mem_places hq
  obtain ⟨j, hj⟩ := eq_of_mem_places hr
  exact hne (Prod.mk.inj hj).1

/-- Addresses of different kinds are different. -/
lemma nodup_append_places (index : Index) (p k : Path) (i j m n : Nat) :
    (knotPlaces index p ++ places k (.stitch i) m ++ places k (.label i j) n).Nodup := by
  have hknot : ∀ spot ∈ knotPlaces index p, ∃ q n, spot = (q, .knot n) := by
    intro spot hspot
    obtain ⟨q, _, hq⟩ := List.mem_flatMap.mp hspot
    exact ⟨q, eq_of_mem_places hq⟩
  have hstitches := nodup_places k (.stitch i) m fun a b hab => (Address.stitch.inj hab).2
  have hlabels := nodup_places k (.label i j) n fun a b hab => (Address.label.inj hab).2.2
  apply List.Nodup.append (List.Nodup.append (nodup_knotPlaces index p) hstitches _) hlabels _
  · intro spot hspot hstitch
    obtain ⟨q, a, rfl⟩ := hknot spot hspot
    obtain ⟨b, hb⟩ := eq_of_mem_places hstitch
    cases (Prod.mk.inj hb).2
  · intro spot hspot hlabel
    obtain ⟨b, rfl⟩ := eq_of_mem_places hlabel
    rcases List.mem_append.mp hspot with hmem | hmem
    · obtain ⟨q, a, ha⟩ := hknot _ hmem
      cases (Prod.mk.inj ha).2
    · obtain ⟨a, ha⟩ := eq_of_mem_places hmem
      cases (Prod.mk.inj ha).2

/-! ### Targets of a line -/

lemma map_place_knotTargets (file : StoryFile) :
    (knotTargets file).map place = places file.path .knot file.outline.knots.length := by
  rw [knotTargets_eq_listed, map_place_listed]

/-- The search for what stands around a line goes by the file that the index knows. -/
lemma enclosing?_eq_some (index : Index) (p : Path) (line : Int) (around : Enclosing)
    (h : index.enclosing? p line = some around) :
    ∃ file, index.get? p = some file ∧ Encloses file line around := by
  unfold Index.enclosing? at h
  split at h
  · cases h
  next file hfile => exact ⟨file, hfile, encloses_of_enclosing? file line around h⟩

/-- Every target points into a file that the index knows. -/
lemma pointsInto_of_mem_diverts (index : Index) (p : Path) (line : Int) (target : Target)
    (h : target ∈ index.diverts p line) :
    ∃ k file, index.entry? k = some file ∧ PointsInto file target := by
  have hknots : target ∈ ((index.includeScope p).flatMap fun path =>
      ((index.entry? path).map knotTargets).getD []) →
      ∃ k file, index.entry? k = some file ∧ PointsInto file target := by
    intro hmem
    obtain ⟨q, _, hq⟩ := List.mem_flatMap.mp hmem
    cases hentry : index.entry? q with
    | none => simp [hentry] at hq
    | some file =>
      rw [hentry] at hq
      exact ⟨q, file, hentry, pointsInto_knotTargets file target hq⟩
  unfold Index.diverts at h
  dsimp only at h
  split at h
  · exact hknots h
  next around haround =>
    obtain ⟨file, hfile, hencloses⟩ := enclosing?_eq_some index p line around haround
    rcases List.mem_append.mp h with hmem | hlabel
    · rcases List.mem_append.mp hmem with hknot | hstitch
      · exact hknots hknot
      · exact ⟨_, file, hfile, pointsInto_stitchTargets hencloses target hstitch⟩
    · exact ⟨_, file, hfile, pointsInto_labelTargets hencloses target hlabel⟩

section Run

variable (base : Path) (steps : List Step)

lemma path_of_known (k : Path) (file : StoryFile)
    (h : Index.entry? (run base steps) k = some file) : file.path = k := by
  have hread := read_of_entry? base steps k file h
  rw [hread]
  rfl

lemma get?_of_known (hbase : base.anchor ≠ .relative) (k : Path) (file : StoryFile)
    (h : Index.entry? (run base steps) k = some file) : (run base steps).get? k = some file := by
  have hmem := mem_of_lookup_eq_some _ _ _ h
  have hk := isCanonical_of_mem_files base steps k file hbase hmem
  rw [Index.get?, Index.key, canonical_of_isCanonical _ k hk]
  exact h

lemma partitioned_of_known (k : Path) (file : StoryFile)
    (h : Index.entry? (run base steps) k = some file) : Partitioned file.outline := by
  have hread := read_of_entry? base steps k file h
  rw [hread]
  exact partitioned_ofText file.text

lemma map_place_knots (p : Path) :
    (((run base steps).includeScope p).flatMap fun path =>
      ((Index.entry? (run base steps) path).map knotTargets).getD []).map place =
      knotPlaces (run base steps) p := by
  rw [List.map_flatMap, knotPlaces]
  congr 1
  funext q
  cases hentry : Index.entry? (run base steps) q with
  | none => rfl
  | some file =>
    have hplaces := map_place_knotTargets file
    rw [path_of_known base steps q file hentry] at hplaces
    exact hplaces

/-- The targets of a line, place by place. -/
lemma map_place_diverts (p : Path) (line : Int) :
    ((run base steps).diverts p line).map place = knotPlaces (run base steps) p ++
      ((run base steps).enclosing? p line).elim [] fun around =>
        places ((run base steps).key p) (.stitch around.knotIndex) around.knot.stitches.length ++
          places ((run base steps).key p) (.label around.knotIndex around.stitchIndex)
            around.stitch.labels.length := by
  rw [← map_place_knots, Index.diverts]
  cases haround : (run base steps).enclosing? p line with
  | none => exact (List.append_nil _).symm
  | some around =>
    obtain ⟨file, hfile, hencloses⟩ := enclosing?_eq_some _ p line around haround
    have hpath := path_of_known base steps _ file hfile
    simp only [List.map_append, stitchTargets_eq_listed, labelTargets_eq_listed, map_place_listed,
      hencloses.file_eq, hpath, Option.elim_some, List.append_assoc]

end Run

/-- After any run, every target of a line is a valid address: the index knows the file by the path
of the target, the positions are in range there, and what stands there has the name and the line of
the target. No two targets have the same file and address. The targets are the knots of all files in
scope, position by position; and then, for a line of a known file or the place behind its end, all
stitches of one knot of that file and all labels of one stitch of that knot, those that contain the
line. -/
theorem diverts_are_valid_addresses (base : Path) (steps : List Step) (p : Path) (line : Int)
    (hbase : base.anchor ≠ .relative) :
    let index := run base steps
    let targets := index.diverts p line
    (∀ target ∈ targets, ∃ file, index.get? target.path = some file ∧ file.path = target.path ∧
      partAt? file.outline target.address = some (target.name, target.line)) ∧
    (targets.map place).Nodup ∧
    (∀ file, index.get? p = some file → 0 ≤ line → line ≤ file.outline.lineCount →
      ∃ i knot j stitch, file.outline.knots[i]? = some knot ∧ knot.contains line = true ∧
        knot.stitches[j]? = some stitch ∧ stitch.contains line = true ∧
        targets.map place = knotPlaces index p ++
          places (index.key p) (.stitch i) knot.stitches.length ++
          places (index.key p) (.label i j) stitch.labels.length) ∧
    ((∀ file, index.get? p = some file → ¬(0 ≤ line ∧ line ≤ file.outline.lineCount)) →
      targets.map place = knotPlaces index p) := by
  intro index targets
  have hplaces := map_place_diverts base steps p line
  refine ⟨?_, ?_, ?_, ?_⟩
  · intro target htarget
    obtain ⟨k, file, hentry, hpoints⟩ := pointsInto_of_mem_diverts index p line target htarget
    obtain rfl := path_of_known base steps k file hentry
    rw [hpoints.path]
    exact ⟨file, get?_of_known base steps hbase _ file hentry, rfl, hpoints.part⟩
  · rw [hplaces]
    cases index.enclosing? p line with
    | none =>
      rw [Option.elim_none, List.append_nil]
      exact nodup_knotPlaces index p
    | some around =>
      rw [Option.elim_some, ← List.append_assoc]
      exact nodup_append_places index p _ _ _ _ _
  · intro file hfile hfirst hlast
    have hpart := partitioned_of_known base steps _ file hfile
    obtain ⟨around, hfind, _⟩ := enclosing?_of_le file hpart line hfirst hlast
    have h := encloses_of_enclosing? file line around hfind
    have haround : index.enclosing? p line = some around := by
      simp only [Index.enclosing?, hfile, hfind]
    refine ⟨_, _, _, _, h.knot, h.knot_contains, h.stitch, h.stitch_contains, ?_⟩
    rw [hplaces, haround, Option.elim_some, List.append_assoc]
  · intro houtside
    have hnone : index.enclosing? p line = none := by
      unfold Index.enclosing?
      split
      · rfl
      next file hfile =>
        have hpart := partitioned_of_known base steps _ file hfile
        exact enclosing?_of_outside file hpart line (houtside file hfile)
    rw [hplaces, hnone, Option.elim_none, List.append_nil]

/-- On the label: the knots of both files, then the stitches of the knot and the label. Behind the
end: only the knots. -/
theorem diverts_are_valid_addresses_include :
    let base : Path := ⟨.root, ["w"]⟩
    let main : Path := ⟨.relative, ["a.ink"]⟩
    let steps : List Step := [.update main "INCLUDE c.ink\n=== k\n= b\n- (x)",
      .update ⟨.relative, ["c.ink"]⟩ "=== l"]
    let a : Path := ⟨.root, ["w", "a.ink"]⟩
    let c : Path := ⟨.root, ["w", "c.ink"]⟩
    let index := run base steps
    base.anchor ≠ .relative ∧
    (index.diverts main 3).map place = [(a, .knot 0), (a, .knot 1), (c, .knot 0),
      (a, .stitch 1 0), (a, .stitch 1 1), (a, .label 1 1 0)] ∧
    ((index.diverts main 3).map place).Nodup ∧
    (∃ file, index.get? a = some file ∧ file.path = a ∧
      partAt? file.outline (.label 1 1 0) = some (some "x", 3)) ∧
    (index.diverts main 5).map place = knotPlaces index main := by
  intro base main steps a c index
  have hbase : base.anchor ≠ .relative := by decide
  obtain ⟨hvalid, hnodup, _⟩ := diverts_are_valid_addresses base steps main 3 hbase
  obtain ⟨_, _, _, houtside⟩ := diverts_are_valid_addresses base steps main 5 hbase
  refine ⟨hbase, by decide +kernel, hnodup, ?_, ?_⟩
  · exact hvalid ⟨a, .label 1 1 0, some "x", 3⟩ (by decide +kernel)
  · apply houtside
    intro file hfile
    obtain rfl := Option.some.inj hfile
    decide +kernel

end StoryAtlas.Proofs
