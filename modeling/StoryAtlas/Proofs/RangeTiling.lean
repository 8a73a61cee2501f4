import Mathlib.Data.List.Basic
import StoryAtlas.Story.Partition

/-!
# Ranges that tile

The ranges of a list tile a stretch of lines if they follow each other from its start to its end
without a gap and none of them is empty. Every line of the stretch then lies in exactly one range.
The partition check of an outline succeeds exactly where the knots tile the file, the stitches of
each knot tile the knot, and every label lies in its stitch.
-/

namespace StoryAtlas.Proofs
open StoryAtlas.Story

/-- The half-open ranges of a list follow each other from `first` to `last`, none of them empty. -/
def Tiles {α : Type} (start stop : α → Int) (first last : Int) : List α → Prop
  | [] => first = last
  | x :: xs => start x = first ∧ first < stop x ∧ Tiles start stop (stop x) last xs

section Tiles

variable {α : Type} {start stop : α → Int} {first last : Int} {xs : List α}

lemma tiles_le (h : Tiles start stop first last xs) : first ≤ last := by
  induction xs generalizing first with
  | nil =>
    have heq : first = last := h
    omega
  | cons x xs ih =>
    obtain ⟨_, hlt, hrest⟩ := h
    have hle := ih hrest
    omega

lemma tiles_bounds (h : Tiles start stop first last xs) {x : α} (hx : x ∈ xs) :
    first ≤ start x ∧ start x < stop x ∧ stop x ≤ last := by
  induction xs generalizing first with
  | nil => simp at hx
  | cons y ys ih =>
    obtain ⟨hstart, hlt, hrest⟩ := h
    rcases List.mem_cons.mp hx with rfl | hmem
    · exact ⟨by omega, by omega, tiles_le hrest⟩
    · obtain ⟨hfirst, hbody, hlast⟩ := ih hrest hmem
      exact ⟨by omega, hbody, hlast⟩

lemma tiles_pairwise (h : Tiles start stop first last xs) :
    xs.Pairwise (fun x y => stop x ≤ start y) := by
  induction xs generalizing first with
  | nil => exact List.Pairwise.nil
  | cons x xs ih =>
    obtain ⟨_, _, hrest⟩ := h
    exact List.pairwise_cons.mpr ⟨fun y hy => (tiles_bounds hrest hy).1, ih hrest⟩

lemma tiles_getLast (h : Tiles start stop first last xs) {x : α} (hx : xs.getLast? = some x) :
    stop x = last := by
  induction xs generalizing first with
  | nil => simp at hx
  | cons y ys ih =>
    obtain ⟨_, _, hrest⟩ := h
    cases ys with
    | nil =>
      obtain rfl : y = x := by simpa using hx
      exact hrest
    | cons z zs => exact ih hrest (by simpa using hx)

/-- Every line of a tiled stretch lies in exactly one range, and no other line lies in any. -/
lemma tiles_countP (h : Tiles start stop first last xs) (line : Int) :
    xs.countP (fun x => decide (start x ≤ line) && decide (line < stop x)) =
      if first ≤ line ∧ line < last then 1 else 0 := by
  induction xs generalizing first with
  | nil =>
    have heq : first = last := h
    rw [if_neg (by omega)]
    rfl
  | cons x xs ih =>
    obtain ⟨hstart, hlt, hrest⟩ := h
    have hle := tiles_le hrest
    rw [List.countP_cons, ih hrest]
    simp only [Bool.and_eq_true, decide_eq_true_eq]
    split_ifs <;> omega

lemma tiles_map {β : Type} (f : β → α) (ys : List β) :
    Tiles start stop first last (ys.map f) ↔
      Tiles (fun y => start (f y)) (fun y => stop (f y)) first last ys := by
  induction ys generalizing first with
  | nil => exact Iff.rfl
  | cons y ys ih => simp only [List.map_cons, Tiles, ih]

lemma tiles_append {middle : Int} {ys : List α} (h : Tiles start stop first middle xs)
    (hys : Tiles start stop middle last ys) : Tiles start stop first last (xs ++ ys) := by
  induction xs generalizing first with
  | nil =>
    have heq : first = middle := h
    rw [heq]
    exact hys
  | cons x xs ih =>
    obtain ⟨hstart, hlt, hrest⟩ := h
    exact ⟨hstart, hlt, ih hrest⟩

lemma tiles_flatMap {β : Type} {start' stop' : β → Int} (h : Tiles start stop first last xs)
    (f : α → List β) (hf : ∀ x ∈ xs, Tiles start' stop' (start x) (stop x) (f x)) :
    Tiles start' stop' first last (xs.flatMap f) := by
  induction xs generalizing first with
  | nil => exact h
  | cons x xs ih =>
    obtain ⟨hstart, _, hrest⟩ := h
    obtain ⟨hx, hxs⟩ := List.forall_mem_cons.mp hf
    rw [hstart] at hx
    exact tiles_append hx (ih hrest hxs)

/-- Numbered things that lie in the ranges of a tiling are found again by their numbers. -/
lemma tiles_filter_flatMap {γ : Type} (h : Tiles start stop first last xs) (f : α → List (γ × Int))
    (hf : ∀ x ∈ xs, ∀ found ∈ f x, start x ≤ found.2 ∧ found.2 < stop x) {x : α} (hx : x ∈ xs) :
    (xs.flatMap f).filter (fun found => decide (start x ≤ found.2) && decide (found.2 < stop x)) =
      f x := by
  induction xs generalizing first with
  | nil => simp at hx
  | cons y ys ih =>
    obtain ⟨hstart, hlt, hrest⟩ := h
    obtain ⟨hy, hys⟩ := List.forall_mem_cons.mp hf
    rw [List.flatMap_cons, List.filter_append]
    rcases List.mem_cons.mp hx with rfl | hmem
    · have hall : (f x).filter (fun found =>
          decide (start x ≤ found.2) && decide (found.2 < stop x)) = f x := by
        rw [List.filter_eq_self]
        intro found hfound
        simpa using hy found hfound
      have hnone : (ys.flatMap f).filter (fun found =>
          decide (start x ≤ found.2) && decide (found.2 < stop x)) = [] := by
        rw [List.filter_eq_nil_iff]
        intro found hfound
        obtain ⟨z, hz, hin⟩ := List.mem_flatMap.mp hfound
        have hbounds := tiles_bounds hrest hz
        have hrange := hys z hz found hin
        simp only [Bool.and_eq_true, decide_eq_true_eq]
        omega
      rw [hall, hnone, List.append_nil]
    · have hnone : (f y).filter (fun found =>
          decide (start x ≤ found.2) && decide (found.2 < stop x)) = [] := by
        rw [List.filter_eq_nil_iff]
        intro found hfound
        have hbounds := tiles_bounds hrest hmem
        have hrange := hy found hfound
        simp only [Bool.and_eq_true, decide_eq_true_eq]
        omega
      rw [hnone, List.nil_append]
      exact ih hrest hys hmem

end Tiles

/-- The stitches of a knot tile it, and each of them holds its labels. -/
structure Filled (knot : Knot) : Prop where
  nonempty : knot.stitches ≠ []
  tiles : Tiles Stitch.start Stitch.stop knot.start knot.stop knot.stitches
  labels : ∀ stitch ∈ knot.stitches, ∀ label ∈ stitch.labels, stitch.contains label.line = true

/-- The knots of an outline tile its lines and the place behind the last one, and are filled. -/
structure Partitioned (outline : Outline) : Prop where
  nonempty : outline.knots ≠ []
  tiles : Tiles Knot.start Knot.stop 0 (outline.lineCount + 1) outline.knots
  filled : ∀ knot ∈ outline.knots, Filled knot

lemma checkLabels_eq_ok_iff (stitch : Stitch) (labels : List Label) :
    checkLabels stitch labels = .ok () ↔ ∀ label ∈ labels, stitch.contains label.line = true := by
  induction labels with
  | nil => simp [checkLabels]
  | cons label labels ih =>
    rw [List.forall_mem_cons, checkLabels, ← ih]
    by_cases hin : stitch.contains label.line = true
    · rw [if_pos hin]
      exact (and_iff_right hin).symm
    · rw [if_neg hin]
      exact ⟨fun h => (nomatch h), fun h => absurd h.1 hin⟩

lemma checkStitches_eq_ok_iff (knot : Option String) (cursor stop : Int) (stitches : List Stitch) :
    checkStitches knot cursor stitches = .ok stop ↔
      Tiles Stitch.start Stitch.stop cursor stop stitches ∧
        ∀ stitch ∈ stitches, ∀ label ∈ stitch.labels, stitch.contains label.line = true := by
  induction stitches generalizing cursor with
  | nil => simp [checkStitches, Tiles]
  | cons stitch stitches ih =>
    have hlabels := checkLabels_eq_ok_iff stitch stitch.labels
    simp only [checkStitches, Tiles, List.forall_mem_cons, ← hlabels]
    split_ifs with hstart hempty
    · simp [hstart]
    · have hgap : ¬cursor < stitch.stop := by omega
      simp [hgap]
    · have hstart' : stitch.start = cursor := not_not.mp hstart
      have hlt : cursor < stitch.stop := by omega
      cases hcheck : checkLabels stitch stitch.labels with
      | error e => simp
      | ok u => simp [hstart', hlt, ih]

lemma checkKnot_eq_ok_iff (knot : Knot) : checkKnot knot = .ok () ↔ Filled knot := by
  have hcheck : checkKnot knot = .ok () ↔ knot.stitches ≠ [] ∧
      checkStitches knot.name knot.start knot.stitches = .ok knot.stop := by
    unfold checkKnot
    split_ifs with hnil
    · simp [hnil]
    · cases checkStitches knot.name knot.start knot.stitches with
      | error e => simp
      | ok stop => by_cases hstop : stop = knot.stop <;> simp [hnil, hstop]
  rw [hcheck, checkStitches_eq_ok_iff]
  exact ⟨fun ⟨hne, htiles, hlabels⟩ => ⟨hne, htiles, hlabels⟩,
    fun h => ⟨h.nonempty, h.tiles, h.labels⟩⟩

lemma checkKnots_eq_ok_iff (cursor : Int) (knots : List Knot) :
    checkKnots cursor knots = .ok () ↔
      (∃ stop, Tiles Knot.start Knot.stop cursor stop knots) ∧ ∀ knot ∈ knots, Filled knot := by
  induction knots generalizing cursor with
  | nil => simp [checkKnots, Tiles]
  | cons knot knots ih =>
    simp only [checkKnots, Tiles, List.forall_mem_cons, ← checkKnot_eq_ok_iff knot]
    split_ifs with hstart hempty
    · simp [hstart]
    · have hgap : ¬cursor < knot.stop := by omega
      simp [hgap]
    · have hstart' : knot.start = cursor := not_not.mp hstart
      have hlt : cursor < knot.stop := by omega
      cases hcheck : checkKnot knot with
      | error e => simp
      | ok u => simp [hstart', hlt, ih]

/-- The check succeeds on the outlines that partition their file, and on no others. -/
theorem check_eq_ok_iff (outline : Outline) : outline.check = .ok () ↔ Partitioned outline := by
  unfold Outline.check
  cases hknots : outline.knots with
  | nil => exact ⟨fun h => (nomatch h), fun h => absurd hknots h.nonempty⟩
  | cons knot knots =>
    have hlast : (knot :: knots).getLast? = some ((knot :: knots).getLast (by simp)) :=
      List.getLast?_eq_some_getLast (by simp)
    simp only [List.head?_cons, hlast]
    constructor
    · intro h
      split_ifs at h with hstart hstop
      obtain ⟨⟨stop, htiles⟩, hfilled⟩ := (checkKnots_eq_ok_iff _ _).mp h
      have hend := tiles_getLast htiles hlast
      refine ⟨by simp [hknots], ?_, by simpa [hknots] using hfilled⟩
      rw [hknots, ← not_not.mp hstop, hend]
      exact htiles
    · intro h
      have htiles := h.tiles
      rw [hknots] at htiles
      rw [if_neg (not_not.mpr htiles.1), if_neg (not_not.mpr (tiles_getLast htiles hlast))]
      exact (checkKnots_eq_ok_iff _ _).mpr ⟨⟨_, htiles⟩, by simpa [hknots] using h.filled⟩

/-- Every stitch of an outline beside the knot that owns it, in the order of the lines. -/
def ownedStitches (outline : Outline) : List (Knot × Stitch) :=
  outline.knots.flatMap fun knot => knot.stitches.map fun stitch => (knot, stitch)

/-- The line lies in the range of a stitch and in that of its knot. -/
def ownedContains (line : Int) (owned : Knot × Stitch) : Bool :=
  owned.1.contains line && owned.2.contains line

/-- Exactly one stitch, with the knot around it, contains a line of the file or the place behind
its end, and none contains any other line. -/
theorem partitioned_countP (outline : Outline) (h : Partitioned outline) (line : Int) :
    (ownedStitches outline).countP (ownedContains line) =
      if 0 ≤ line ∧ line ≤ outline.lineCount then 1 else 0 := by
  have htiles : Tiles (fun owned : Knot × Stitch => owned.2.start) (fun owned => owned.2.stop)
      0 (outline.lineCount + 1) (ownedStitches outline) := by
    apply tiles_flatMap h.tiles
    intro knot hknot
    exact (tiles_map _ _).mpr (h.filled knot hknot).tiles
  have hsame : ∀ owned ∈ ownedStitches outline, ownedContains line owned = true ↔
      (decide (owned.2.start ≤ line) && decide (line < owned.2.stop)) = true := by
    intro owned howned
    obtain ⟨knot, hknot, hmem⟩ := List.mem_flatMap.mp howned
    obtain ⟨stitch, hstitch, rfl⟩ := List.mem_map.mp hmem
    have hbounds := tiles_bounds (h.filled knot hknot).tiles hstitch
    simp only [ownedContains, Bool.and_eq_true, Knot.contains_iff, Stitch.contains_iff,
      decide_eq_true_eq]
    omega
  rw [List.countP_congr hsame, tiles_countP htiles]
  simp only [Int.lt_add_one_iff]

end StoryAtlas.Proofs
