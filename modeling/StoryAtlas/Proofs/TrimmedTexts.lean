import Mathlib.Data.List.TakeWhile
import StoryAtlas.Text.Blank

/-!
# Trimmed texts

Trimming gives a text that neither starts nor ends with a blank, and leaves such a text as it is.
Nothing is left exactly of a text of blanks.
-/

namespace StoryAtlas.Proofs
open StoryAtlas.Text

/-- The text neither starts nor ends with a blank. -/
structure IsTrimmed (cs : List Char) : Prop where
  head : ∀ c, cs.head? = some c → isBlank c = false
  last : ∀ c, cs.getLast? = some c → isBlank c = false

lemma skipBlanks_of_head {cs : List Char} (h : ∀ c, cs.head? = some c → isBlank c = false) :
    skipBlanks cs = cs := by
  cases cs with
  | nil => rfl
  | cons c cs => exact List.dropWhile_cons_of_neg (by simp [h c rfl])

lemma head_skipBlanks (cs : List Char) :
    ∀ c, (skipBlanks cs).head? = some c → isBlank c = false := by
  intro c hc
  have hhead := List.head?_dropWhile_not isBlank cs
  unfold skipBlanks at hc
  rw [hc] at hhead
  exact hhead

lemma trimBlanks_of_isTrimmed {cs : List Char} (h : IsTrimmed cs) : trimBlanks cs = cs := by
  unfold trimBlanks
  rw [skipBlanks_of_head h.head, skipBlanks_of_head, List.reverse_reverse]
  rw [List.head?_reverse]
  exact h.last

lemma isTrimmed_trimBlanks (cs : List Char) : IsTrimmed (trimBlanks cs) := by
  unfold trimBlanks
  constructor
  · intro c hc
    -- what is left of the text behind the first blanks starts where it starts
    obtain ⟨rest, hrest⟩ := List.dropWhile_suffix isBlank (l := (skipBlanks cs).reverse)
    have hfirst : (skipBlanks cs).reverse.getLast? = some c := by
      rw [List.head?_reverse, skipBlanks] at hc
      rw [← hrest, List.getLast?_append, hc, Option.some_or]
    rw [List.getLast?_reverse] at hfirst
    exact head_skipBlanks cs c hfirst
  · intro c hc
    rw [List.getLast?_reverse] at hc
    exact head_skipBlanks _ c hc

lemma trimBlanks_eq_nil_iff (cs : List Char) : trimBlanks cs = [] ↔ cs.all isBlank = true := by
  have hnil (cs : List Char) : skipBlanks cs = [] ↔ ∀ c ∈ cs, isBlank c = true :=
    List.dropWhile_eq_nil_iff
  rw [trimBlanks, List.reverse_eq_nil_iff, hnil, List.all_eq_true, ← hnil cs]
  constructor
  · intro h
    cases hskip : skipBlanks cs with
    | nil => rfl
    | cons c rest =>
      have hblank := h c (by simp [hskip])
      rw [head_skipBlanks cs c (by rw [hskip]; rfl)] at hblank
      cases hblank
  · intro h
    simp [h]

lemma trim_eq_empty_iff (s : String) : trim s = "" ↔ isBlankText s = true := by
  unfold trim isBlankText
  rw [← trimBlanks_eq_nil_iff, ← String.toList_inj, String.toList_ofList]
  rfl

end StoryAtlas.Proofs
