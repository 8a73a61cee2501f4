import Mathlib.Data.List.Basic
import StoryAtlas.Proofs.TrimmedTexts
import StoryAtlas.Text.Lowercase

/-!
# Lower case and blanks

Lower case takes no character away and makes no blank of a character that is none. So a trimmed text
is still trimmed in lower case.
-/

namespace StoryAtlas.Proofs
open StoryAtlas.Text

/-- The code points of blanks. -/
def blankCodes : List Nat :=
  [0x9, 0xA, 0xB, 0xC, 0xD, 0x1C, 0x1D, 0x1E, 0x1F, 0x20, 0x85, 0xA0, 0x1680, 0x2000, 0x2001, 0x2002,
    0x2003, 0x2004, 0x2005, 0x2006, 0x2007, 0x2008, 0x2009, 0x200A, 0x2028, 0x2029, 0x202F, 0x205F,
    0x3000]

lemma toNat_mem_blankCodes {c : Char} (h : isBlank c = true) : c.toNat ∈ blankCodes := by
  simp only [isBlank, Bool.or_eq_true, Bool.and_eq_true, decide_eq_true_eq, beq_iff_eq] at h
  simp only [blankCodes, List.mem_cons, List.not_mem_nil, or_false]
  omega

/-- A number that is no character stands for the character zero. -/
lemma toNat_charOfNat (n : Nat) : (Char.ofNat n).toNat = n ∨ (Char.ofNat n).toNat = 0 := by
  by_cases h : n.isValidChar
  · rw [Char.ofNat, dif_pos h]
    exact Or.inl rfl
  · rw [Char.ofNat, dif_neg h]
    exact Or.inr rfl

/-- The lower-case letters that the runs give lie apart from the blanks. -/
lemma run_apart : ∀ run ∈ lowerRuns, ∀ code ∈ blankCodes,
    code < run.image ∨ run.image + (run.last - run.first) < code := by
  decide +kernel

lemma isBlank_lowerChar {c : Char} (h : isBlank c = false) : isBlank (lowerChar c) = false := by
  unfold lowerChar
  split_ifs with hascii
  · have hall : ∀ n < 0x80, isBlank (Char.ofNat n) = false →
        isBlank (Char.ofNat n).toLower = false := by decide
    have hchar := hall c.toNat hascii
    rw [Char.ofNat_toNat] at hchar
    exact hchar h
  · split
    · next n hn =>
      obtain ⟨run, hrun, happly⟩ := List.exists_of_findSome?_eq_some hn
      unfold CaseRun.apply? at happly
      split_ifs at happly with hin
      obtain rfl := Option.some.inj happly
      rw [Bool.eq_false_iff]
      intro hblank
      have hcode := toNat_mem_blankCodes hblank
      rcases toNat_charOfNat (run.image + (c.toNat - run.first)) with hn | hn
      · have happart := run_apart run hrun _ hcode
        rw [hn] at happart
        omega
      · rw [hn] at hcode
        exact absurd hcode (by decide)
    · exact h

lemma isBlank_of_mem_lowerWithin {c d : Char} {before after : List Char} (h : isBlank c = false)
    (hd : d ∈ lowerWithin before c after) : isBlank d = false := by
  unfold lowerWithin at hd
  split_ifs at hd
  · obtain rfl := List.mem_singleton.mp hd
    unfold lowerSigma
    split <;> decide
  · rcases List.mem_pair.mp hd with rfl | rfl <;> decide
  · obtain rfl := List.mem_singleton.mp hd
    exact isBlank_lowerChar h

lemma lowerWithin_ne_nil (before : List Char) (c : Char) (after : List Char) :
    lowerWithin before c after ≠ [] := by
  unfold lowerWithin
  split_ifs <;> simp

lemma lowerFrom_eq_nil_iff (before cs : List Char) : lowerFrom before cs = [] ↔ cs = [] := by
  cases cs <;> simp [lowerFrom, lowerWithin_ne_nil]

/-- The last character of a text in lower case comes from the last character of the text. -/
lemma getLast?_lowerFrom (before : List Char) {cs : List Char} {c : Char}
    (h : cs.getLast? = some c) :
    ∃ behind, (lowerFrom before cs).getLast? = (lowerWithin behind c []).getLast? := by
  induction cs generalizing before with
  | nil => cases h
  | cons first rest ih =>
    cases rest with
    | nil =>
      obtain rfl : first = c := by simpa using h
      exact ⟨before, by simp [lowerFrom]⟩
    | cons second rest =>
      obtain ⟨behind, hlast⟩ := ih (first :: before) (by simpa using h)
      refine ⟨behind, ?_⟩
      rw [lowerFrom, List.getLast?_append_of_ne_nil, hlast]
      simp [lowerFrom_eq_nil_iff]

lemma isTrimmed_lowerFrom (before : List Char) {cs : List Char} (h : IsTrimmed cs) :
    IsTrimmed (lowerFrom before cs) := by
  constructor
  · intro d hd
    cases cs with
    | nil => cases hd
    | cons c rest =>
      rw [lowerFrom, List.head?_append_of_ne_nil _ (lowerWithin_ne_nil _ _ _)] at hd
      exact isBlank_of_mem_lowerWithin (h.head c rfl) (List.mem_of_mem_head? hd)
  · intro d hd
    cases hlast : cs.getLast? with
    | none =>
      rw [List.getLast?_eq_none_iff.mp hlast] at hd
      cases hd
    | some c =>
      obtain ⟨behind, hbehind⟩ := getLast?_lowerFrom before hlast
      rw [hbehind] at hd
      exact isBlank_of_mem_lowerWithin (h.last c hlast) (List.mem_of_mem_getLast? hd)

end StoryAtlas.Proofs
