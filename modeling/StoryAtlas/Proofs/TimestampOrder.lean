import StoryAtlas.Proofs.CalendarDates
import StoryAtlas.Proofs.LogReads

/-!
# Timestamps in order

A timestamp is a row of numbers, from the year down to the milliseconds, each written with a fixed
number of digits and one sign behind it. Such rows compare as texts like the rows of their numbers,
and these like the clock. So a log that is read since a timestamp gives what was logged in its
millisecond or later.
-/

namespace StoryAtlas.Proofs
open StoryAtlas.Calendar StoryAtlas.Disk StoryAtlas.Journal

/-! ### Numbers of fixed width -/

lemma digitChar_lt {m n : Nat} (h : m < n) (hn : n < 10) : m.digitChar < n.digitChar := by
  have hm := Nat.toNat_digitChar_of_lt_ten (h.trans hn)
  have hn := Nat.toNat_digitChar_of_lt_ten hn
  change m.digitChar.toNat < n.digitChar.toNat
  omega

/-- Digits compare like the number that they write, whatever follows them, by induction on their
number. -/
lemma fixedDigits_append_lt (width : Nat) {m n : Nat} (h : m % 10 ^ width < n % 10 ^ width)
    (cs ds : List Char) : fixedDigits width m ++ cs < fixedDigits width n ++ ds := by
  induction width with
  | zero => omega
  | succ width ih =>
    rw [Nat.mod_pow_succ, Nat.mod_pow_succ] at h
    simp only [fixedDigits, List.cons_append, List.cons_lt_cons_iff, Nat.pow_eq]
    rcases lt_trichotomy (m / 10 ^ width % 10) (n / 10 ^ width % 10) with hlt | heq | hgt
    · exact Or.inl (digitChar_lt hlt (Nat.mod_lt _ (by decide)))
    · rw [heq] at h ⊢
      exact Or.inr ⟨rfl, ih (by omega)⟩
    · -- a greater digit outweighs all digits behind it
      have hbound : n % 10 ^ width < 10 ^ width := Nat.mod_lt _ (Nat.pow_pos (by decide))
      have hscaled : 10 ^ width * (n / 10 ^ width % 10) + 10 ^ width ≤
          10 ^ width * (m / 10 ^ width % 10) := by
        rw [← Nat.mul_succ]
        exact Nat.mul_le_mul_left _ hgt
      omega

/-- Numbers in fields, each of its width and with its sign behind it. -/
def fieldChars : List (Nat × Char) → List Nat → List Char
  | (width, sign) :: layout, n :: numbers => fixedDigits width n ++ sign :: fieldChars layout numbers
  | _, _ => []

/-- The numbers fit in their fields. -/
def FitsLayout (layout : List (Nat × Char)) (numbers : List Nat) : Prop :=
  List.Forall₂ (fun field n => n < 10 ^ field.1) layout numbers

/-- Numbers in fields compare as texts like the rows of numbers. -/
lemma fieldChars_lt {layout : List (Nat × Char)} {numbers later : List Nat}
    (hfits : FitsLayout layout numbers) (hlater : FitsLayout layout later) (h : numbers < later) :
    fieldChars layout numbers < fieldChars layout later := by
  induction hfits generalizing later with
  | nil =>
    cases hlater
    exact absurd h (lt_irrefl _)
  | @cons field n layout numbers hn _ ih =>
    cases hlater with
    | @cons _ m _ later hm hrest =>
    rw [fieldChars, fieldChars]
    rcases List.cons_lt_cons_iff.mp h with hlt | ⟨rfl, hlt⟩
    · refine fixedDigits_append_lt field.1 ?_ _ _
      rwa [Nat.mod_eq_of_lt hn, Nat.mod_eq_of_lt hm]
    · exact List.append_left_lt (List.cons_lt_cons_iff.mpr (Or.inr ⟨rfl, ih hrest hlt⟩))

/-! ### The numbers of a timestamp -/

/-- The fields of a timestamp. -/
def timestampLayout : List (Nat × Char) :=
  [(4, '-'), (2, '-'), (2, 'T'), (2, ':'), (2, ':'), (2, '.'), (3, 'Z')]

/-- The hour, the minute, the second and the millisecond in it. -/
def timeNumbers (millis : Nat) : List Nat :=
  [millis / 3600000, millis / 60000 % 60, millis / 1000 % 60, millis % 1000]

/-- The numbers of a moment that is given in milliseconds from the start of 1970. -/
def momentNumbers (millis : Nat) : List Nat :=
  dateNumbers (dateOf (millis / 86400000 + epochDays)) ++ timeNumbers (millis % 86400000)

lemma timeNumbers_lt {millis later : Nat} (h : millis < later) :
    timeNumbers millis < timeNumbers later := by
  simp only [timeNumbers, List.cons_lt_cons_iff, List.not_lt_nil]
  omega

/-- The numbers of a later moment are greater. -/
lemma momentNumbers_lt {millis later : Nat} (h : millis < later) :
    momentNumbers millis < momentNumbers later := by
  unfold momentNumbers
  rcases (Nat.div_le_div_right h.le : millis / 86400000 ≤ later / 86400000).lt_or_eq with
    hday | hday
  · have hdate := dateOf_lt (Nat.add_lt_add_right hday epochDays)
    simp only [dateNumbers, List.cons_append, List.cons_lt_cons_iff, List.not_lt_nil] at hdate ⊢
    tauto
  · rw [hday]
    exact List.append_left_lt (timeNumbers_lt (by omega))

/-- The clock value with which the year 10000 starts. -/
def clockEnd : Int := 253402300800000000

section Moment

variable {millis : Nat} (h : (millis : Int) < clockEnd / 1000)

include h

lemma year_bounds : 1970 ≤ (dateOf (millis / 86400000 + epochDays)).year ∧
    (dateOf (millis / 86400000 + epochDays)).year ≤ 9999 := by
  unfold clockEnd at h
  have hfirst : daysInYears 1969 = epochDays := by decide
  have hlast : daysInYears 9999 = 3652059 := by decide
  have hlow := (yearsIn_lt_iff (millis / 86400000 + epochDays) 1969).not.mpr (by omega)
  have hhigh := (yearsIn_lt_iff (millis / 86400000 + epochDays) 9999).mpr
    (by unfold epochDays; omega)
  unfold dateOf
  dsimp only
  omega

lemma fitsLayout_momentNumbers : FitsLayout timestampLayout (momentNumbers millis) := by
  obtain ⟨_, hyear⟩ := year_bounds h
  obtain ⟨hmonth, hday⟩ := dateOf_bounds (millis / 86400000 + epochDays)
  simp only [FitsLayout, timestampLayout, momentNumbers, dateNumbers, timeNumbers, List.cons_append,
    List.nil_append, List.forall₂_cons, List.Forall₂.nil, and_true]
  omega

/-- The years of the clock have four digits. -/
lemma yearDigits_moment : yearDigits (dateOf (millis / 86400000 + epochDays)).year =
    fixedDigits 4 (dateOf (millis / 86400000 + epochDays)).year := by
  obtain ⟨hlow, hhigh⟩ := year_bounds h
  generalize (dateOf (millis / 86400000 + epochDays)).year = year at hlow hhigh
  have hfirst : (year / 1000 % 10).digitChar ≠ '0' := by
    rw [ne_eq, Nat.digitChar_eq_zero]
    omega
  unfold yearDigits fixedDigits
  exact List.dropWhile_cons_of_neg (by simpa using hfirst)

lemma timestampChars_moment :
    timestampChars (dateOf (millis / 86400000 + epochDays)) (millis % 86400000) =
      fieldChars timestampLayout (momentNumbers millis) := by
  unfold timestampChars
  rw [yearDigits_moment h]
  rfl

end Moment

/-- The timestamp of a clock value up to the end of the year 9999. -/
lemma timestamp_eq_fieldChars {micros : Int} (hstart : 0 ≤ micros) (hend : micros < clockEnd) :
    timestamp micros =
      String.ofList (fieldChars timestampLayout (momentNumbers (micros / 1000).toNat)) := by
  obtain ⟨millis, hmillis⟩ : ∃ millis : Nat, micros / 1000 = millis :=
    Int.eq_ofNat_of_zero_le (by omega)
  have hlt : (millis : Int) < clockEnd / 1000 := by
    unfold clockEnd at hend ⊢
    omega
  have hfloor : Int.fdiv micros 1000 = millis := by
    rw [Int.fdiv_eq_ediv_of_nonneg _ (by decide), hmillis]
  have hdays : (Int.fdiv millis 86400000 + epochDays).toNat = millis / 86400000 + epochDays := by
    rw [Int.fdiv_eq_ediv_of_nonneg _ (by decide)]
    omega
  have htime : (Int.fmod millis 86400000).toNat = millis % 86400000 := by
    rw [Int.fmod_eq_emod_of_nonneg _ (by decide)]
    omega
  unfold timestamp
  dsimp only
  rw [hfloor, hdays, htime, timestampChars_moment hlt, hmillis, Int.toNat_natCast]

/-- The timestamp of a later millisecond is greater. -/
lemma timestamp_lt {micros later : Int} (hstart : 0 ≤ micros) (hend : later < clockEnd)
    (h : micros / 1000 < later / 1000) : timestamp micros < timestamp later := by
  rw [timestamp_eq_fieldChars hstart (by omega), timestamp_eq_fieldChars (by omega) hend,
    String.lt_iff_toList_lt, String.toList_ofList, String.toList_ofList]
  have hlast : later / 1000 < clockEnd / 1000 := by
    unfold clockEnd at hend ⊢
    omega
  exact fieldChars_lt (fitsLayout_momentNumbers (by omega)) (fitsLayout_momentNumbers (by omega))
    (momentNumbers_lt (by omega))

/-- Timestamps compare as texts like the milliseconds of the clock. -/
theorem timestamp_le_iff {micros later : Int} (hstart : 0 ≤ micros) (hend : micros < clockEnd)
    (hstart' : 0 ≤ later) (hend' : later < clockEnd) :
    timestamp micros ≤ timestamp later ↔ micros / 1000 ≤ later / 1000 := by
  constructor
  · intro hle
    by_contra hgt
    exact absurd (timestamp_lt hstart' hend (not_le.mp hgt)) (not_lt.mpr hle)
  · intro hle
    rcases hle.lt_or_eq with hlt | heq
    · exact (timestamp_lt hstart hend' hlt).le
    · rw [timestamp_eq_fieldChars hstart hend, timestamp_eq_fieldChars hstart' hend', heq]

/-! ### Reading a log since a time -/

lemma map_toNat_lt_iff (cs ds : List Char) : cs.map Char.toNat < ds.map Char.toNat ↔ cs < ds := by
  induction cs generalizing ds with
  | nil => cases ds <;> simp
  | cons c cs ih =>
    cases ds with
    | nil => simp
    | cons d ds =>
      have hchar : c.toNat < d.toNat ↔ c < d := Iff.rfl
      have hsame : c.toNat = d.toNat ↔ c = d := Char.toNat_inj
      rw [List.map_cons, List.map_cons, List.cons_lt_cons_iff, List.cons_lt_cons_iff, ih, hchar,
        hsame]

/-- Texts are ordered like their code points. -/
lemma ofText_lt_iff (s t : String) : Points.ofText s < Points.ofText t ↔ s < t := by
  rw [Points.ofText, Points.ofText, map_toNat_lt_iff, String.lt_iff_toList_lt]

/-- The record has the timestamp of a clock value. -/
def StampedAt (micros : Int) (record : RawFields) : Prop :=
  record.get? "timestamp" = some (.str (Points.ofText (timestamp micros)))

/-- Clock values from the start of 1970 to the end of the year 9999. -/
def OnClock (micros : Int) : Prop :=
  0 ≤ micros ∧ micros < clockEnd

instance (micros : Int) : Decidable (OnClock micros) :=
  inferInstanceAs (Decidable (_ ∧ _))

/-- A record is not before the instant that a timestamp names, which is the start of a
millisecond. -/
lemma isSince_timestamp {since micros : Int} {record : RawFields} (hsince : OnClock since)
    (hmicros : OnClock micros) (hstamp : StampedAt micros record) :
    isSince (timestamp since) record = decide (1000 * (since / 1000) ≤ micros) := by
  have hbefore : Points.ofText (timestamp micros) < Points.ofText (timestamp since) ↔
      ¬1000 * (since / 1000) ≤ micros := by
    rw [ofText_lt_iff, ← not_le, timestamp_le_iff hsince.1 hsince.2 hmicros.1 hmicros.2]
    omega
  unfold isSince
  rw [hstamp]
  simp only [hbefore, decide_not, Bool.not_not]

lemma select_timestamp {since : Int} (hsince : OnClock since) {logged : List (Int × RawFields)}
    (h : ∀ entry ∈ logged, OnClock entry.1 ∧ StampedAt entry.1 entry.2) :
    select (some (timestamp since)) (logged.map Prod.snd) =
      (logged.filter fun entry => 1000 * (since / 1000) ≤ entry.1).map Prod.snd := by
  change (logged.map Prod.snd).filter (isSince (timestamp since)) = _
  rw [List.filter_map]
  refine congrArg (List.map Prod.snd) (List.filter_congr fun entry hentry => ?_)
  obtain ⟨hmicros, hstamp⟩ := h entry hentry
  exact isSince_timestamp hsince hmicros hstamp

/-- Up to the end of the year 9999 timestamps are ordered as texts like the clock, and are the same
exactly within one millisecond. A log whose records were stamped by the clock is read since a
timestamp as those of its records that were made at the instant it names or later. -/
theorem timestamps_in_time_order :
    (∀ a b : Int, 0 ≤ a → a ≤ b → b < clockEnd →
      timestamp a ≤ timestamp b ∧ (timestamp a = timestamp b ↔ a / 1000 = b / 1000)) ∧
    ∀ (since : Int) (logged : List (Int × RawFields)) (room : Nat) (disk : Disk) (file : Path)
      (place : List String) (text : String), OnClock since →
      (∀ entry ∈ logged, OnClock entry.1 ∧ StampedAt entry.1 entry.2) →
      FilePlace disk file place → bytesAt disk.tree place = text.toUTF8 →
      records room text = .ok (logged.map Prod.snd) → ∀ limit ≤ maxLimit,
        read room disk file (some (timestamp since)) limit = .ok (newest limit
          ((logged.filter fun entry => 1000 * (since / 1000) ≤ entry.1).map Prod.snd)) := by
  constructor
  · intro a b hstart hle hend
    have horder {x y : Int} (hx : OnClock x) (hy : OnClock y) :=
      timestamp_le_iff hx.1 hx.2 hy.1 hy.2
    have ha : OnClock a := ⟨hstart, by omega⟩
    have hb : OnClock b := ⟨by omega, hend⟩
    refine ⟨(horder ha hb).mpr (by omega), ?_⟩
    rw [le_antisymm_iff, horder ha hb, horder hb ha, ← le_antisymm_iff]
  · intro since logged room disk file place text hsince hlogged hplace htext hrecords limit hlimit
    rw [read_of_records hplace htext _ hlimit hrecords, select_timestamp hsince hlogged]

/-- The record of a request that was answered at a clock value. -/
def answeredAt (micros : Int) : LogEvent :=
  .audit ⟨timestamp micros, "r", "ink.status", true, false, none, []⟩

lemma get?_rawFields (fields : Fields) (key : String) :
    RawFields.get? (Json.rawFields fields) key = (fields.get? key).map Json.raw := by
  induction fields with
  | nil => rfl
  | cons field fields ih =>
    obtain ⟨name, value⟩ := field
    unfold RawFields.get? Fields.get? at ih ⊢
    rw [Json.rawFields, List.lookup_cons, List.lookup_cons]
    by_cases hname : key = name
    · simp [hname]
    · have hpoints : Points.ofText key ≠ Points.ofText name := ofText_injective.ne hname
      rw [beq_eq_false_iff_ne.mpr hname, beq_eq_false_iff_ne.mpr hpoints]
      exact ih

lemma stampedAt_answeredAt (micros : Int) :
    StampedAt micros (Json.rawFields (answeredAt micros).fields) := by
  have hget : (answeredAt micros).fields.get? "timestamp" = some (.str (timestamp micros)) := by
    simp [answeredAt, LogEvent.fields, LogEvent.toJson, AuditRecord.toJson, Json.object,
      Fields.ofList, Fields.insertAll, get?_insert]
  rw [StampedAt, get?_rawFields, hget]
  rfl

/-- A log of requests that were answered at these clock values. -/
def clockLog (clock : List Int) : Disk where
  tree := .dir [("audit.jsonl", .file (eventsText (clock.map answeredAt)).toUTF8)]
  cwd := ⟨.root, []⟩
  linkRoom := 900

lemma stamped_clockLog {clock : List Int} (h : ∀ micros ∈ clock, OnClock micros) :
    ∀ entry ∈ clock.map fun micros => (micros, Json.rawFields (answeredAt micros).fields),
      OnClock entry.1 ∧ StampedAt entry.1 entry.2 := by
  intro entry hentry
  obtain ⟨micros, hmicros, rfl⟩ := List.mem_map.mp hentry
  dsimp only
  exact ⟨h micros hmicros, stampedAt_answeredAt micros⟩

/-- The log stands at its place. -/
lemma filePlace_clockLog (clock : List Int) :
    FilePlace (clockLog clock) strayFile ["audit.jsonl"] ∧
      bytesAt (clockLog clock).tree ["audit.jsonl"] =
        (eventsText (clock.map answeredAt)).toUTF8 :=
  ⟨⟨some (.file _), rfl, by simp⟩, rfl⟩

lemma records_clockLog (clock : List Int) : records 900 (eventsText (clock.map answeredAt)) =
    .ok ((clock.map fun micros =>
      (micros, Json.rawFields (answeredAt micros).fields)).map Prod.snd) := by
  have hloggable : ∀ event ∈ clock.map answeredAt, Loggable event := by
    intro event hevent
    obtain ⟨micros, _, rfl⟩ := List.mem_map.mp hevent
    exact ⟨tidyFields_nil, by simp [answeredAt, LogEvent.detail]⟩
  have hnothing : HasLines "".toList [] := .nil
  have hwithin : ∀ event ∈ clock.map answeredAt, WithinBounds (.within 900) event.toJson := by
    intro event hevent
    obtain ⟨micros, _, rfl⟩ := List.mem_map.mp hevent
    exact withinBounds_logEvent (Nat.zero_le _) (Nat.le_add_left 2 898)
  have hrecords := records_append_eventsText hnothing (by simp)
    (fun event hevent => tidy_logEvent (hloggable event hevent).tidy)
    (fun event hevent => floatFree_logEvent (hloggable event hevent).floatFree) hwithin
  rw [String.empty_append] at hrecords
  rw [hrecords]
  simp

theorem timestamps_in_time_order_midnight :
    timestamp 1699919999999999 ≤ timestamp 1699920000000500 ∧
    timestamp 1699920000000500 = timestamp 1699920000000999 ∧
    read 900 (clockLog [1699919999999999, 1699920000000500]) strayFile
      (some (timestamp 1699920000000999)) 50 =
        .ok [Json.rawFields (answeredAt 1699920000000500).fields] := by
  obtain ⟨horder, hread⟩ := timestamps_in_time_order
  have hclock : ∀ micros ∈ [1699919999999999, 1699920000000500], OnClock micros := by decide
  obtain ⟨hplace, htext⟩ := filePlace_clockLog [1699919999999999, 1699920000000500]
  have hfound := hread 1699920000000999 _ _ _ _ _ _ (by decide) (stamped_clockLog hclock) hplace
    htext (records_clockLog _) 50 (by decide)
  refine ⟨(horder _ _ (by decide) (by decide) (by decide)).1,
    (horder _ _ (by decide) (by decide) (by decide)).2.mpr (by decide), ?_⟩
  rw [hfound]
  rfl

end StoryAtlas.Proofs
