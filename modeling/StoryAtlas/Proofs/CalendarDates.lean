import Mathlib.Algebra.Order.Ring.Nat
import Mathlib.Data.List.Lex
import StoryAtlas.Timestamp

/-!
# Dates in order

The years of the calendar part its days among them: a day lies in the year whose first day is not
after it and whose last day is not before it. Within a year the months part the days in the same
way. So a later day has a later date, read from the year down to the day.
-/

namespace StoryAtlas.Proofs
open StoryAtlas.Calendar

/-! ### Years -/

/-- The number of leap days goes by the rule of leap years. -/
lemma leapDays_succ (n : Nat) :
    leapDays (n + 1) = leapDays n + if isLeap (n + 1) then 1 else 0 := by
  have hcenturies : n / 100 ≤ n / 4 := by omega
  unfold leapDays isLeap
  rw [Nat.succ_div, Nat.succ_div, Nat.succ_div]
  simp only [Nat.dvd_iff_mod_eq_zero]
  by_cases hfour : (n + 1) % 4 = 0
  · by_cases hcentury : (n + 1) % 100 = 0
    · by_cases hfourth : (n + 1) % 400 = 0
      · simp [hfour, hcentury, hfourth]
        omega
      · simp [hfour, hcentury, hfourth]
    · have hfourth : (n + 1) % 400 ≠ 0 := by omega
      simp [hfour, hcentury, hfourth]
      omega
  · have hcentury : (n + 1) % 100 ≠ 0 := by omega
    have hfourth : (n + 1) % 400 ≠ 0 := by omega
    simp [hfour, hcentury, hfourth]

/-- A year has as many days as its months together. -/
lemma daysInYears_succ (n : Nat) :
    daysInYears (n + 1) = daysInYears n + (monthLengths (n + 1)).sum := by
  have hmonths : (monthLengths (n + 1)).sum = 365 + if isLeap (n + 1) then 1 else 0 := by
    unfold monthLengths
    split_ifs <;> rfl
  unfold daysInYears
  rw [leapDays_succ, hmonths]
  omega

lemma strictMono_daysInYears : StrictMono daysInYears := by
  refine strictMono_nat_of_lt_succ fun n => ?_
  unfold daysInYears
  rw [leapDays_succ]
  omega

/-- The days in years run ahead of the mean by less than a day, and behind it by less than two. -/
lemma daysInYears_mean (n : Nat) :
    400 * daysInYears n < 146097 * n + 400 ∧ 146097 * n < 400 * daysInYears n + 800 := by
  have hcenturies : n / 100 ≤ n / 4 := by omega
  unfold daysInYears leapDays
  omega

/-- A day lies in the year that is found for it. -/
lemma daysInYears_yearsIn (days : Nat) :
    daysInYears (yearsIn days) ≤ days ∧ days < daysInYears (yearsIn days + 1) := by
  unfold yearsIn
  dsimp only
  -- the guess from the mean length of a year is off by at most one
  generalize hguess : days * 400 / 146097 = guess
  split_ifs with hnext hthis
  · obtain ⟨_, hbehind⟩ := daysInYears_mean (guess + 1 + 1)
    exact ⟨hnext, by omega⟩
  · exact ⟨hthis, by omega⟩
  · cases guess with
    | zero => exact absurd (Nat.zero_le days) hthis
    | succ guess =>
      obtain ⟨hahead, _⟩ := daysInYears_mean guess
      rw [Nat.add_sub_cancel]
      exact ⟨by omega, by omega⟩

lemma monotone_yearsIn : Monotone yearsIn := by
  intro days later hle
  obtain ⟨hlow, _⟩ := daysInYears_yearsIn days
  obtain ⟨_, hhigh⟩ := daysInYears_yearsIn later
  have hlt := strictMono_daysInYears.lt_iff_lt.mp (hlow.trans_lt (hle.trans_lt hhigh))
  omega

/-- A bound on the years in days, by the days in years. -/
lemma yearsIn_lt_iff (days years : Nat) : yearsIn days < years ↔ days < daysInYears years := by
  obtain ⟨hlow, hhigh⟩ := daysInYears_yearsIn days
  constructor
  · intro hlt
    exact hhigh.trans_le (strictMono_daysInYears.monotone hlt)
  · intro hlt
    exact strictMono_daysInYears.lt_iff_lt.mp (hlow.trans_lt hlt)

/-! ### Months -/

/-- The month and the day in it increase with the day, by induction on the months. -/
lemma monthAndDay_lt (month : Nat) (lengths : List Nat) {day later : Nat} (h : day < later) :
    (monthAndDay month lengths day).1 < (monthAndDay month lengths later).1 ∨
      (monthAndDay month lengths day).1 = (monthAndDay month lengths later).1 ∧
        (monthAndDay month lengths day).2 < (monthAndDay month lengths later).2 := by
  have hge : ∀ month lengths day, month ≤ (monthAndDay month lengths day).1 := by
    intro month lengths day
    fun_induction monthAndDay month lengths day with
    | case1 => exact le_rfl
    | case2 => exact le_rfl
    | case3 _ _ _ _ _ ih => omega
  induction lengths generalizing month day later with
  | nil => exact Or.inr ⟨rfl, h⟩
  | cons length rest ih =>
    unfold monthAndDay
    split_ifs with hday hlater
    · exact Or.inr ⟨rfl, h⟩
    · exact Or.inl (hge (month + 1) rest (later - length))
    · omega
    · exact ih (month + 1) (by omega)

/-- A day within the months lies in one of them. -/
lemma monthAndDay_bounds (month : Nat) (lengths : List Nat) (day : Nat) (h : day < lengths.sum) :
    (monthAndDay month lengths day).1 < month + lengths.length ∧
      ∃ length ∈ lengths, (monthAndDay month lengths day).2 < length := by
  fun_induction monthAndDay month lengths day with
  | case1 => simp at h
  | case2 month length rest day hday => exact ⟨by simp, length, List.mem_cons_self, hday⟩
  | case3 month length rest day hday ih =>
    rw [List.sum_cons] at h
    obtain ⟨hmonth, found, hfound, hlt⟩ := ih (by omega)
    refine ⟨?_, found, List.mem_cons_of_mem _ hfound, hlt⟩
    rw [List.length_cons]
    omega

/-! ### Dates -/

/-- The numbers of a date, the year first. -/
def dateNumbers (date : Date) : List Nat :=
  [date.year, date.month, date.day]

/-- A later day has a later date. -/
theorem dateOf_lt {days later : Nat} (h : days < later) :
    dateNumbers (dateOf days) < dateNumbers (dateOf later) := by
  have hyears := monotone_yearsIn h.le
  obtain ⟨hlow, _⟩ := daysInYears_yearsIn days
  simp only [dateNumbers, dateOf, List.cons_lt_cons_iff]
  rcases hyears.lt_or_eq with hlt | hsame
  · exact Or.inl (by omega)
  · rw [← hsame]
    have hmonths := monthAndDay_lt 1 (monthLengths (yearsIn days + 1))
      (show days - daysInYears (yearsIn days) < later - daysInYears (yearsIn days) by omega)
    rcases hmonths with hmonth | ⟨hmonth, hday⟩
    · exact Or.inr ⟨rfl, Or.inl hmonth⟩
    · exact Or.inr ⟨rfl, Or.inr ⟨hmonth, Or.inl (by omega)⟩⟩

/-- Months and days have at most two digits. -/
lemma dateOf_bounds (days : Nat) : (dateOf days).month < 100 ∧ (dateOf days).day < 100 := by
  obtain ⟨hlow, hhigh⟩ := daysInYears_yearsIn days
  rw [daysInYears_succ] at hhigh
  obtain ⟨hmonth, length, hlength, hday⟩ := monthAndDay_bounds 1
    (monthLengths (yearsIn days + 1)) (days - daysInYears (yearsIn days)) (by omega)
  have hlong : ∀ year, ∀ length ∈ monthLengths year, length ≤ 31 := by
    intro year
    unfold monthLengths
    split_ifs <;> decide
  have hle := hlong _ length hlength
  have hcount : (monthLengths (yearsIn days + 1)).length = 12 := rfl
  unfold dateOf
  dsimp only
  omega

end StoryAtlas.Proofs
