import Mathlib
import StoryAtlas.Proofs.RangeTiling

/-!
# Ranges that partition a set of lines

Ranges that follow each other without a gap are the same as ranges in increasing order that part a
stretch of lines among them. The check of an outline goes by the former; a reader of an outline
relies on the latter.
-/

namespace StoryAtlas.Proofs
open StoryAtlas.Story

/-- The ranges of a list part a set of lines among them, in increasing order. -/
structure Partitions {α : Type} (start stop : α → Int) (lines : Set Int) (xs : List α) : Prop where
  nonempty : ∀ x ∈ xs, (Set.Ico (start x) (stop x)).Nonempty
  increasing : xs.Pairwise fun x y => start x < start y
  disjoint : xs.Pairwise fun x y =>
    Disjoint (Set.Ico (start x) (stop x)) (Set.Ico (start y) (stop y))
  union : ⋃ x ∈ xs, Set.Ico (start x) (stop x) = lines

section Tiles

variable {α : Type} {start stop : α → Int} {first last : Int} {xs : List α}

lemma mem_ranges_iff (line : Int) : line ∈ ⋃ x ∈ xs, Set.Ico (start x) (stop x) ↔
    ∃ x ∈ xs, start x ≤ line ∧ line < stop x := by
  simp only [Set.mem_iUnion, Set.mem_Ico, exists_prop]

lemma partitions_of_tiles (h : Tiles start stop first last xs) :
    Partitions start stop (Set.Ico first last) xs where
  nonempty x hx := Set.nonempty_Ico.mpr (tiles_bounds h hx).2.1
  increasing := by
    refine (tiles_pairwise h).imp_of_mem fun hx _ hle => ?_
    exact lt_of_lt_of_le (tiles_bounds h hx).2.1 hle
  disjoint := by
    refine (tiles_pairwise h).imp fun hle => ?_
    refine Set.disjoint_left.mpr fun line hbefore hbehind => ?_
    exact absurd hbehind.1 (not_le.mpr (lt_of_lt_of_le hbefore.2 hle))
  union := by
    ext line
    have hcount := tiles_countP h line
    have hsome : (∃ x ∈ xs, start x ≤ line ∧ line < stop x) ↔
        0 < xs.countP fun x => decide (start x ≤ line) && decide (line < stop x) := by
      simp [List.countP_pos_iff]
    rw [mem_ranges_iff, Set.mem_Ico, hsome, hcount]
    split_ifs with hin <;> simp [hin]

/-- A partition starts where the stretch starts, and what its first range leaves of the stretch is
parted among the others. -/
lemma partitions_cons {x : α} (h : Partitions start stop (Set.Ico first last) (x :: xs)) :
    start x = first ∧ first < stop x ∧ stop x ≤ last ∧
      Partitions start stop (Set.Ico (stop x) last) xs := by
  have hmem (line : Int) : first ≤ line ∧ line < last ↔
      ∃ y ∈ x :: xs, start y ≤ line ∧ line < stop y := by
    rw [← mem_ranges_iff, h.union, Set.mem_Ico]
  obtain ⟨hx, hxs⟩ := List.forall_mem_cons.mp h.nonempty
  obtain ⟨hahead, hincreasing⟩ := List.pairwise_cons.mp h.increasing
  obtain ⟨happart, hdisjoint⟩ := List.pairwise_cons.mp h.disjoint
  have hbody : start x < stop x := Set.nonempty_Ico.mp hx
  have hlow := (hmem (start x)).mpr ⟨x, List.mem_cons_self, by omega, hbody⟩
  have hhigh := (hmem (stop x - 1)).mpr ⟨x, List.mem_cons_self, by omega, by omega⟩
  -- the range that holds the first line does not start before the first range
  have hstart : start x ≤ first := by
    obtain ⟨y, hy, hle, _⟩ := (hmem first).mp (by omega)
    rcases List.mem_cons.mp hy with rfl | hlater
    · exact hle
    · have hlt := hahead y hlater
      omega
  refine ⟨by omega, by omega, by omega, hxs, hincreasing, hdisjoint, ?_⟩
  ext line
  rw [mem_ranges_iff, Set.mem_Ico]
  constructor
  · rintro ⟨y, hy, hle, hlt⟩
    have hin := (hmem line).mpr ⟨y, List.mem_cons_of_mem _ hy, hle, hlt⟩
    have hout := Set.disjoint_right.mp (happart y hy) ⟨hle, hlt⟩
    rw [Set.mem_Ico] at hout
    omega
  · rintro ⟨hge, hlt⟩
    obtain ⟨y, hy, hin⟩ := (hmem line).mp (by omega)
    rcases List.mem_cons.mp hy with rfl | hlater
    · omega
    · exact ⟨y, hlater, hin⟩

lemma tiles_of_partitions (hle : first ≤ last) (h : Partitions start stop (Set.Ico first last) xs) :
    Tiles start stop first last xs := by
  induction xs generalizing first with
  | nil =>
    have hempty : Set.Ico first last = ∅ := by
      rw [← h.union]
      simp
    have hge := Set.Ico_eq_empty_iff.mp hempty
    change first = last
    omega
  | cons x xs ih =>
    obtain ⟨hstart, hlt, hstop, hrest⟩ := partitions_cons h
    exact ⟨hstart, hlt, ih hstop hrest⟩

end Tiles

/-- The check of an outline succeeds exactly where the knots part the lines of the file and the
place behind its end among them, the stitches of each knot part its lines, and every label is on a
line of its stitch. -/
theorem check_ok_iff_partitions (outline : Outline) : outline.check = .ok () ↔
    outline.knots ≠ [] ∧
    Partitions Knot.start Knot.stop (Set.Icc 0 outline.lineCount) outline.knots ∧
    (∀ knot ∈ outline.knots,
      Partitions Stitch.start Stitch.stop (Set.Ico knot.start knot.stop) knot.stitches) ∧
    ∀ knot ∈ outline.knots, ∀ stitch ∈ knot.stitches, ∀ label ∈ stitch.labels,
      label.line ∈ Set.Ico stitch.start stitch.stop := by
  have hlines : Set.Icc 0 outline.lineCount = Set.Ico 0 (outline.lineCount + 1) := by
    ext line
    rw [Set.mem_Icc, Set.mem_Ico, Int.lt_add_one_iff]
  rw [check_eq_ok_iff, hlines]
  constructor
  · rintro ⟨hne, htiles, hfilled⟩
    refine ⟨hne, partitions_of_tiles htiles, fun knot hknot => ?_, ?_⟩
    · exact partitions_of_tiles (hfilled knot hknot).tiles
    · intro knot hknot stitch hstitch label hlabel
      exact Stitch.contains_iff.mp ((hfilled knot hknot).labels stitch hstitch label hlabel)
  · rintro ⟨hne, hknots, hstitches, hlabels⟩
    have hpositive : 0 ≤ outline.lineCount + 1 := by
      obtain ⟨knot, knots, hcons⟩ := List.exists_cons_of_ne_nil hne
      rw [hcons] at hknots
      obtain ⟨_, hlt, hle, _⟩ := partitions_cons hknots
      omega
    refine ⟨hne, tiles_of_partitions hpositive hknots, fun knot hknot => ?_⟩
    have hrange : knot.start < knot.stop := Set.nonempty_Ico.mp (hknots.nonempty knot hknot)
    refine ⟨?_, tiles_of_partitions hrange.le (hstitches knot hknot), ?_⟩
    · intro hnone
      have htiles := tiles_of_partitions hrange.le (hstitches knot hknot)
      rw [hnone] at htiles
      exact hrange.ne htiles
    · intro stitch hstitch label hlabel
      exact Stitch.contains_iff.mpr (hlabels knot hknot stitch hstitch label hlabel)

end StoryAtlas.Proofs
