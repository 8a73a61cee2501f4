import Mathlib.Data.List.Infix
import StoryAtlas.Story.Cursor

/-!
# Arrows in front of the cursor

A divert target is wanted where the text in front of the cursor ends with a divert or a thread
arrow, or with such an arrow and one space, but not behind the second arrow of a tunnel return. A
line feed at the end of the text is not counted, so that the start of a line is taken for the end of
the line above it.
-/

namespace StoryAtlas.Proofs
open StoryAtlas.Story

/-- The text ends with `mark` and at most one space. -/
def EndsBehind (mark cs : List Char) : Prop :=
  mark <:+ cs ∨ mark ++ [' '] <:+ cs

/-- The text ends with a divert or a thread arrow and at most one space. -/
def EndsWithArrow (cs : List Char) : Prop :=
  EndsBehind ['-', '>'] cs ∨ EndsBehind ['<', '-'] cs

/-- The text ends with two divert arrows and at most one space behind each. -/
def EndsWithTunnel (cs : List Char) : Prop :=
  EndsBehind ['-', '>', '-', '>'] cs ∨ EndsBehind ['-', '>', ' ', '-', '>'] cs

instance (mark cs : List Char) : Decidable (EndsBehind mark cs) :=
  inferInstanceAs (Decidable (_ ∨ _))

instance (cs : List Char) : Decidable (EndsWithArrow cs) :=
  inferInstanceAs (Decidable (_ ∨ _))

instance (cs : List Char) : Decidable (EndsWithTunnel cs) :=
  inferInstanceAs (Decidable (_ ∨ _))

/-- Drops one line feed at the end. -/
def dropLineFeed (cs : List Char) : List Char :=
  if cs.getLast? = some '\n' then cs.dropLast else cs

lemma prefix_unspaced_iff (mark backwards : List Char) (h : mark.head? ≠ some ' ') :
    mark <+: unspaced backwards ↔ mark <+: backwards ∨ ' ' :: mark <+: backwards := by
  cases mark with
  | nil => simp
  | cons m mark =>
    have hm : m ≠ ' ' := by simpa using h
    unfold unspaced
    split
    · simp [List.cons_prefix_cons, hm]
    · rename_i hspace
      rw [iff_self_or]
      rintro ⟨rest, rfl⟩
      exact absurd rfl (hspace _)

lemma endsBehind_iff (mark cs : List Char) (h : mark.getLast? ≠ some ' ') :
    EndsBehind mark cs ↔ mark.reverse <+: unspaced cs.reverse := by
  rw [prefix_unspaced_iff _ _ (by rwa [List.head?_reverse]), EndsBehind, ← List.reverse_prefix,
    ← List.reverse_prefix, List.reverse_append]
  rfl

lemma endsWithArrow_reverse (cs : List Char) :
    endsWithArrow cs.reverse = true ↔ EndsWithArrow cs := by
  rw [EndsWithArrow, endsBehind_iff _ _ (by decide), endsBehind_iff _ _ (by decide)]
  simp only [List.reverse_cons, List.reverse_nil, List.nil_append, List.cons_append, endsWithArrow]
  split
  · rename_i rest heq
    simp [heq]
  · rename_i rest heq
    simp [heq]
  · rename_i hdivert hthread
    simp only [Bool.false_eq_true, false_iff, not_or]
    constructor
    · rintro ⟨rest, heq⟩
      exact hdivert rest heq.symm
    · rintro ⟨rest, heq⟩
      exact hthread rest heq.symm

lemma endsWithTunnel_reverse (cs : List Char) :
    endsWithTunnel cs.reverse = true ↔ EndsWithTunnel cs := by
  rw [EndsWithTunnel, endsBehind_iff _ _ (by decide), endsBehind_iff _ _ (by decide)]
  simp only [List.reverse_cons, List.reverse_nil, List.nil_append, List.cons_append, endsWithTunnel]
  split
  · rename_i rest heq
    simp only [heq, List.cons_prefix_cons, true_and]
    rw [← prefix_unspaced_iff ['>', '-'] rest (by decide)]
    split
    · rename_i more hmore
      simp [hmore]
    · rename_i hmore
      simp only [Bool.false_eq_true, false_iff]
      rintro ⟨more, heq⟩
      exact hmore more heq.symm
  · rename_i hdivert
    simp only [Bool.false_eq_true, false_iff, not_or]
    constructor
    · rintro ⟨rest, heq⟩
      exact hdivert _ heq.symm
    · rintro ⟨rest, heq⟩
      exact hdivert _ heq.symm

/-- A text that ends with a line feed is looked at without it, too; behind the line feed there is no
arrow. -/
lemma any_lineEnds (ends : List Char → Bool) (h : ∀ rest, ends ('\n' :: rest) = false)
    (cs : List Char) :
    ((lineEnds cs).map List.reverse).any ends = ends (dropLineFeed cs).reverse := by
  unfold lineEnds dropLineFeed
  split_ifs with hlast
  · obtain ⟨front, rfl⟩ := List.getLast?_eq_some_iff.mp hlast
    simp [h]
  · simp

/-- A target is wanted behind a divert or thread arrow with at most one space behind it, unless two
divert arrows stand there, and nowhere else. A line feed behind the arrow makes no difference. -/
theorem trigger_by_last_arrow (before : String) :
    isDivertTrigger before = true ↔
      EndsWithArrow (dropLineFeed before.toList) ∧ ¬EndsWithTunnel (dropLineFeed before.toList) := by
  dsimp only [isDivertTrigger]
  rw [any_lineEnds endsWithArrow (fun _ => rfl), any_lineEnds endsWithTunnel (fun _ => rfl),
    Bool.and_eq_true, Bool.not_eq_true', ← Bool.not_eq_true, endsWithArrow_reverse,
    endsWithTunnel_reverse]

/-- The cursor stands at the start of a line, and the arrow at the end of the line above it. -/
theorem trigger_on_next_line :
    ¬∀ before : String, isDivertTrigger before = true ↔
      EndsWithArrow before.toList ∧ ¬EndsWithTunnel before.toList := by
  intro h
  have harrow := ((h "->\n").mp (by decide)).1
  exact absurd harrow (by decide)

end StoryAtlas.Proofs
