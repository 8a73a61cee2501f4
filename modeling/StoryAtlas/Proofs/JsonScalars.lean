import Mathlib.Data.List.Basic
import Mathlib.Data.List.TakeWhile
import StoryAtlas.Json.Reader
import StoryAtlas.Json.Writer

/-!
# Strings and numbers in JSON texts

What is written for a string reads back as the string, and what is written for a whole number as the
number if it has not too many digits, whatever follows it in the text of a value. What is written
for a floating-point value reads back as some floating-point value. All of it is printable ASCII.
-/

namespace StoryAtlas.Proofs
open StoryAtlas.Text StoryAtlas.Number

/-- What follows a value in the text of a larger one, or nothing. -/
def Ends (rest : List Char) : Prop :=
  ∀ c, rest.head? = some c → c = ',' ∨ c = ']' ∨ c = '}'

lemma ends_nil : Ends [] := by
  simp [Ends]

lemma ends_cons {c : Char} (rest : List Char) (hc : c = ',' ∨ c = ']' ∨ c = '}') :
    Ends (c :: rest) := by
  intro d hd
  obtain rfl : c = d := by simpa using hd
  exact hc

/-- The characters from the blank to the tilde. -/
def IsPrintable (c : Char) : Prop :=
  0x20 ≤ c.toNat ∧ c.toNat < 0x7F

instance (c : Char) : Decidable (IsPrintable c) :=
  inferInstanceAs (Decidable (0x20 ≤ c.toNat ∧ c.toNat < 0x7F))

/-- The test of a given text, character by character. -/
lemma isPrintable_of_all {cs : List Char} (h : cs.all (fun c => decide (IsPrintable c)) = true) :
    ∀ c ∈ cs, IsPrintable c := by
  simpa using h

/-! ### Strings -/

lemma readHex?_four (n : Nat) (rest : List Char) (hn : n < 0x10000) :
    readHex? 4 0 (hex 4 n ++ rest) = some (n, rest) := by
  have hpow : Nat.pow 16 4 = 0x10000 := by decide
  rw [readHex?_hex_append, hpow, Nat.mod_eq_of_lt hn]
  simp

lemma toNat_cases (c : Char) : c.toNat < 0xD800 ∨ 0xDFFF < c.toNat ∧ c.toNat < 0x110000 :=
  c.valid

/-- A code point in two code units. -/
lemma joinUnits_pair (c : Char) (rest : List Char) (hc : 0x10000 ≤ c.toNat) :
    Json.joinUnits (0xD800 + (c.toNat - 0x10000) / 0x400)
      (Json.unitEscape (0xDC00 + (c.toNat - 0x10000) % 0x400) ++ rest) = (c.toNat, rest) := by
  have hvalid := toNat_cases c
  have hmod : (c.toNat - 0x10000) % 0x400 < 0x400 := Nat.mod_lt _ (by decide)
  have hlow : Json.lowSurrogate? (Json.unitEscape (0xDC00 + (c.toNat - 0x10000) % 0x400) ++ rest) =
      some (0xDC00 + (c.toNat - 0x10000) % 0x400, rest) := by
    unfold Json.unitEscape
    rw [List.cons_append, List.cons_append, Json.lowSurrogate?, readHex?_four _ _ (by omega)]
    simp only
    rw [if_pos (by omega)]
  have hcode : 0x10000 + (0xD800 + (c.toNat - 0x10000) / 0x400 - 0xD800) * 0x400 +
      (0xDC00 + (c.toNat - 0x10000) % 0x400 - 0xDC00) = c.toNat := by omega
  unfold Json.joinUnits
  rw [if_pos (by omega), hlow]
  simp only [hcode]

/-- Half a pair is no character. -/
lemma joinUnits_single (c : Char) (rest : List Char) :
    Json.joinUnits c.toNat rest = (c.toNat, rest) := by
  have hvalid := toNat_cases c
  unfold Json.joinUnits
  rw [if_neg (by omega)]

lemma isPrintable_digitChar (n : Nat) (hn : n < 16) : IsPrintable n.digitChar := by
  have hall : ∀ n < 16, IsPrintable (Nat.digitChar n) := by decide
  exact hall n hn

lemma isPrintable_hex (width n : Nat) : ∀ c ∈ hex width n, IsPrintable c := by
  induction width with
  | zero => simp [hex]
  | succ width ih =>
    exact List.forall_mem_cons.mpr ⟨isPrintable_digitChar _ (Nat.mod_lt _ (by decide)), ih⟩

lemma isPrintable_unitEscape (unit : Nat) : ∀ c ∈ Json.unitEscape unit, IsPrintable c :=
  List.forall_mem_cons.mpr ⟨by decide,
    List.forall_mem_cons.mpr ⟨by decide, isPrintable_hex 4 unit⟩⟩

/-- How a character is written: as it is, or behind a backslash by what reads as the character. -/
inductive CharText (c : Char) : List Char → Prop
  | plain (hprint : IsPrintable c) (hquote : c ≠ '"') (hslash : c ≠ '\\') : CharText c [c]
  | escaped (body : List Char) (hprint : ∀ d ∈ body, IsPrintable d)
      (hread : ∀ rest, Json.readEscape? (body ++ rest) = some (c.toNat, rest)) :
      CharText c ('\\' :: body)

lemma charText_unit (c : Char) (hc : c.toNat < 0x10000) :
    CharText c (Json.unitEscape c.toNat) := by
  refine .escaped ('u' :: hex 4 c.toNat) ?_ fun rest => ?_
  · exact List.forall_mem_cons.mpr ⟨by decide, isPrintable_hex 4 _⟩
  · rw [List.cons_append, Json.readEscape?, readHex?_four _ _ hc, Option.map_some,
      joinUnits_single]

lemma charText_pair (c : Char) (hc : 0x10000 ≤ c.toNat) :
    CharText c (Json.unitEscape (0xD800 + (c.toNat - 0x10000) / 0x400) ++
      Json.unitEscape (0xDC00 + (c.toNat - 0x10000) % 0x400)) := by
  have hvalid := toNat_cases c
  refine .escaped ('u' :: hex 4 (0xD800 + (c.toNat - 0x10000) / 0x400) ++
    Json.unitEscape (0xDC00 + (c.toNat - 0x10000) % 0x400)) ?_ fun rest => ?_
  · refine List.forall_mem_append.mpr ⟨?_, isPrintable_unitEscape _⟩
    exact List.forall_mem_cons.mpr ⟨by decide, isPrintable_hex 4 _⟩
  · rw [List.append_assoc, List.cons_append, Json.readEscape?, readHex?_four _ _ (by omega),
      Option.map_some, joinUnits_pair c rest hc]

lemma charText_writeChar (c : Char) : CharText c (Json.writeChar c) := by
  unfold Json.writeChar
  by_cases hquote : c = '"'
  · rw [if_pos hquote, hquote]
    exact .escaped ['"'] (isPrintable_of_all rfl) fun _ => rfl
  rw [if_neg hquote]
  by_cases hslash : c = '\\'
  · rw [if_pos hslash, hslash]
    exact .escaped ['\\'] (isPrintable_of_all rfl) fun _ => rfl
  rw [if_neg hslash]
  by_cases hfeed : c = '\n'
  · rw [if_pos hfeed, hfeed]
    exact .escaped ['n'] (isPrintable_of_all rfl) fun _ => rfl
  rw [if_neg hfeed]
  by_cases hreturn : c = '\r'
  · rw [if_pos hreturn, hreturn]
    exact .escaped ['r'] (isPrintable_of_all rfl) fun _ => rfl
  rw [if_neg hreturn]
  by_cases htab : c = '\t'
  · rw [if_pos htab, htab]
    exact .escaped ['t'] (isPrintable_of_all rfl) fun _ => rfl
  rw [if_neg htab]
  by_cases hback : c.toNat = 8
  · obtain rfl : c = Char.ofNat 8 := by rw [← hback, Char.ofNat_toNat]
    exact .escaped ['b'] (isPrintable_of_all rfl) fun _ => rfl
  rw [if_neg hback]
  by_cases hform : c.toNat = 12
  · obtain rfl : c = Char.ofNat 12 := by rw [← hform, Char.ofNat_toNat]
    exact .escaped ['f'] (isPrintable_of_all rfl) fun _ => rfl
  rw [if_neg hform]
  by_cases hplain : 0x20 ≤ c.toNat ∧ c.toNat < 0x7F
  · rw [if_pos hplain]
    exact .plain hplain hquote hslash
  rw [if_neg hplain]
  by_cases hsmall : c.toNat < 0x10000
  · rw [if_pos hsmall]
    exact charText_unit c hsmall
  · rw [if_neg hsmall]
    exact charText_pair c (Nat.not_lt.mp hsmall)

/-- One step of the reader takes in one character as it is written. -/
lemma readChars?_writeChar (fuel : Nat) (found : Points) (c : Char) (rest : List Char) :
    Json.readChars? (fuel + 1) found (Json.writeChar c ++ rest) =
      Json.readChars? fuel (c.toNat :: found) rest := by
  have htext := charText_writeChar c
  generalize Json.writeChar c = text at htext ⊢
  cases htext with
  | plain hprint hquote hslash =>
    rw [List.singleton_append, Json.readChars?, if_neg hquote, if_neg hslash,
      if_neg (Nat.not_lt.mpr hprint.1)]
  | escaped body _ hread =>
    rw [List.cons_append, Json.readChars?, if_neg (by decide), if_pos rfl, hread]

lemma readChars?_flatMap (cs rest : List Char) (found : Points) (fuel : Nat)
    (hfuel : cs.length < fuel) :
    Json.readChars? fuel found (cs.flatMap Json.writeChar ++ '"' :: rest) =
      some (found.reverse ++ cs.map Char.toNat, rest) := by
  induction cs generalizing fuel found with
  | nil =>
    obtain ⟨fuel, rfl⟩ := Nat.exists_eq_add_of_lt hfuel
    simp [Json.readChars?]
  | cons c cs ih =>
    cases fuel with
    | zero => omega
    | succ fuel =>
      rw [List.flatMap_cons, List.append_assoc, readChars?_writeChar,
        ih (c.toNat :: found) fuel (by simpa using hfuel)]
      simp

lemma length_writeChar_pos (c : Char) : 0 < (Json.writeChar c).length := by
  have htext := charText_writeChar c
  generalize Json.writeChar c = text at htext ⊢
  cases htext with
  | plain => simp
  | escaped body => simp

lemma length_le_flatMap_writeChar (cs : List Char) :
    cs.length ≤ (cs.flatMap Json.writeChar).length := by
  induction cs with
  | nil => simp
  | cons c cs ih =>
    have hc := length_writeChar_pos c
    rw [List.flatMap_cons, List.length_append, List.length_cons]
    omega

lemma length_writeString (s : String) :
    (Json.writeString s).length = (s.toList.flatMap Json.writeChar).length + 2 := by
  simp [Json.writeString]

/-- A string as it is written, behind its opening quote. -/
lemma readChars?_writeString (s : String) (fuel : Nat) (rest : List Char)
    (hfuel : (Json.writeString s).length ≤ fuel + 1) :
    ∃ body, Json.writeString s ++ rest = '"' :: body ∧
      Json.readChars? fuel [] body = some (Points.ofText s, rest) := by
  have hlength := length_le_flatMap_writeChar s.toList
  rw [length_writeString] at hfuel
  refine ⟨s.toList.flatMap Json.writeChar ++ '"' :: rest, by simp [Json.writeString], ?_⟩
  rw [readChars?_flatMap s.toList rest [] fuel (by omega)]
  rfl

lemma isPrintable_writeChar (c : Char) : ∀ d ∈ Json.writeChar c, IsPrintable d := by
  have htext := charText_writeChar c
  generalize Json.writeChar c = text at htext ⊢
  cases htext with
  | plain hprint _ _ => simpa using hprint
  | escaped body hprint _ => exact List.forall_mem_cons.mpr ⟨by decide, hprint⟩

lemma isPrintable_writeString (s : String) : ∀ c ∈ Json.writeString s, IsPrintable c := by
  intro c hc
  simp only [Json.writeString, List.mem_append, List.mem_cons, List.not_mem_nil, or_false] at hc
  rcases hc with (rfl | hc) | rfl
  · decide
  · obtain ⟨d, _, hd⟩ := List.mem_flatMap.mp hc
    exact isPrintable_writeChar d c hd
  · decide

/-! ### Runs of digits -/

/-- A run of digits that is not empty. -/
def IsDigits (digits : List Char) : Prop :=
  digits ≠ [] ∧ ∀ c ∈ digits, c.isDigit = true

/-- The integral part of a number: a zero in front stands alone. -/
def IsWhole (whole : List Char) : Prop :=
  IsDigits whole ∧ (whole.head? = some '0' → whole = ['0'])

/-- No digit stands in front. -/
def NoDigit (rest : List Char) : Prop :=
  ∀ c, rest.head? = some c → c.isDigit = false

lemma noDigit_of_ends {rest : List Char} (h : Ends rest) : NoDigit rest := by
  intro c hc
  rcases h c hc with rfl | rfl | rfl <;> decide

lemma noDigit_cons {c : Char} (rest : List Char) (hc : c.isDigit = false) :
    NoDigit (c :: rest) := by
  intro d hd
  obtain rfl : c = d := by simpa using hd
  exact hc

lemma isDigits_append {digits more : List Char} (h : IsDigits digits)
    (hmore : ∀ c ∈ more, c.isDigit = true) : IsDigits (digits ++ more) :=
  ⟨by simp [h.1], List.forall_mem_append.mpr ⟨h.2, hmore⟩⟩

lemma isWhole_zero : IsWhole ['0'] :=
  ⟨⟨by simp, by simp⟩, fun _ => rfl⟩

lemma takeWhile_noDigit {rest : List Char} (h : NoDigit rest) :
    rest.takeWhile Char.isDigit = [] ∧ rest.dropWhile Char.isDigit = rest := by
  cases rest with
  | nil => simp
  | cons c rest =>
    have hc := h c rfl
    simp [hc]

lemma readDigits?_append (digits rest : List Char) (h : IsDigits digits) (hrest : NoDigit rest) :
    Json.readDigits? (digits ++ rest) = some (digits, rest) := by
  obtain ⟨htake, hdrop⟩ := takeWhile_noDigit hrest
  unfold Json.readDigits?
  rw [List.takeWhile_append_of_pos h.2, List.dropWhile_append_of_pos h.2, htake, hdrop,
    List.append_nil, if_neg (by simpa using h.1)]

lemma readWhole?_append (whole rest : List Char) (h : IsWhole whole) (hrest : NoDigit rest) :
    Json.readWhole? (whole ++ rest) = some (whole, rest) := by
  obtain ⟨c, cs, rfl⟩ := List.exists_cons_of_ne_nil h.1.1
  by_cases hc : c = '0'
  · subst hc
    obtain rfl : cs = [] := by simpa using h.2 rfl
    rfl
  · have hread := readDigits?_append (c :: cs) rest h.1 hrest
    rw [List.cons_append] at hread ⊢
    unfold Json.readWhole?
    split
    · simp_all
    · exact hread

/-! ### Numbers -/

lemma readUnsigned_append {digits : Nat} {negative : Bool} {whole tail fraction middle : List Char}
    {rest : List Char} {exponent : Option Int} {value : RawJson} (hwhole : IsWhole whole)
    (htail : NoDigit tail) (hfraction : Json.readFraction tail = (fraction, middle))
    (hexponent : Json.readExponent middle = (exponent, rest))
    (hvalue : Json.numberOf digits negative whole fraction exponent = .ok value) :
    Json.readUnsigned digits negative (whole ++ tail) = .ok (value, rest) := by
  unfold Json.readUnsigned
  rw [readWhole?_append whole tail hwhole htail]
  simp only [hfraction, hexponent, hvalue]
  rfl

lemma readFraction_of_ne (c : Char) (rest : List Char) (hc : c ≠ '.') :
    Json.readFraction (c :: rest) = ([], c :: rest) := by
  unfold Json.readFraction
  split
  · simp_all
  · rfl

lemma readFraction_ends {rest : List Char} (h : Ends rest) :
    Json.readFraction rest = ([], rest) := by
  cases rest with
  | nil => rfl
  | cons c rest =>
    apply readFraction_of_ne
    rcases h c rfl with rfl | rfl | rfl <;> decide

lemma readExponent_ends {rest : List Char} (h : Ends rest) :
    Json.readExponent rest = (none, rest) := by
  cases rest with
  | nil => rfl
  | cons c rest =>
    have hc : ¬(c = 'e' ∨ c = 'E') := by
      rcases h c rfl with rfl | rfl | rfl <;> decide
    simp [Json.readExponent, hc]

lemma readFraction_digits (fraction rest : List Char) (h : IsDigits fraction)
    (hrest : NoDigit rest) : Json.readFraction ('.' :: (fraction ++ rest)) = (fraction, rest) := by
  simp only [Json.readFraction, readDigits?_append fraction rest h hrest, Option.getD_some]

/-- A number is read off the first character of its text. -/
lemma readScalar_digit (digits : Nat) (c : Char) (rest : List Char) (hc : c.isDigit = true) :
    Json.readScalar digits (c :: rest) = Json.readUnsigned digits false (c :: rest) := by
  unfold Json.readScalar
  split
  case h_8 => rfl
  all_goals
    rename_i heq
    rw [(List.cons.inj heq).1] at hc
    cases hc

lemma readScalar_minus (digits : Nat) (c : Char) (rest : List Char) (hc : c.isDigit = true) :
    Json.readScalar digits ('-' :: c :: rest) = Json.readUnsigned digits true (c :: rest) := by
  unfold Json.readScalar
  split
  case h_6 heq =>
    rw [(List.cons.inj (List.cons.inj heq).2).1] at hc
    cases hc
  case h_7 heq => rw [(List.cons.inj heq).2]
  case h_8 hminus => exact absurd rfl (hminus _)
  all_goals
    rename_i heq
    exact absurd (List.cons.inj heq).1 (by decide)

lemma head?_toDigits (n : Nat) (hn : n ≠ 0) : (Nat.toDigits 10 n).head? ≠ some '0' := by
  induction n using Nat.strongRecOn with
  | ind n ih =>
    by_cases hsmall : n < 10
    · rw [Nat.toDigits_of_lt_base hsmall]
      simp only [List.head?_cons, ne_eq, Option.some.injEq]
      have hall : ∀ n < 10, n ≠ 0 → Nat.digitChar n ≠ '0' := by decide
      exact hall n hsmall hn
    · have hdiv : n / 10 ≠ 0 := by omega
      rw [Nat.toDigits_of_base_le (by decide) (by omega),
        List.head?_append_of_ne_nil _ Nat.toDigits_ne_nil]
      exact ih (n / 10) (by omega) hdiv

lemma isDigits_toDigits (n : Nat) : IsDigits (Nat.toDigits 10 n) :=
  ⟨Nat.toDigits_ne_nil, fun _ hc => Nat.isDigit_of_mem_toDigits (by decide) (by decide) hc⟩

lemma isWhole_toDigits (n : Nat) : IsWhole (Nat.toDigits 10 n) := by
  refine ⟨isDigits_toDigits n, ?_⟩
  intro hhead
  by_cases hn : n = 0
  · subst hn
    decide
  · exact absurd hhead (head?_toDigits n hn)

lemma readUnsigned_toDigits {digits : Nat} (negative : Bool) {n : Nat} {rest : List Char}
    (hn : (Nat.toDigits 10 n).length ≤ digits) (hrest : Ends rest) :
    Json.readUnsigned digits negative (Nat.toDigits 10 n ++ rest) =
      .ok (.int (if negative then -(n : Int) else n), rest) := by
  refine readUnsigned_append (isWhole_toDigits n) (noDigit_of_ends hrest) (readFraction_ends hrest)
    (readExponent_ends hrest) ?_
  simp [Json.numberOf, Nat.ofDigitChars_ten_toDigits, Nat.not_lt.mpr hn]

/-- A whole number as it is written reads back. -/
lemma readScalar_writeInt {digits : Nat} {i : Int} (hi : (Json.digitsOf i).length ≤ digits)
    (rest : List Char) (hrest : Ends rest) :
    Json.readScalar digits (Json.writeInt i ++ rest) = .ok (.int i, rest) := by
  obtain ⟨c, cs, hdigits⟩ := List.exists_cons_of_ne_nil (isDigits_toDigits i.natAbs).1
  have hc : c.isDigit = true := (isDigits_toDigits i.natAbs).2 c (by simp [hdigits])
  have hread := readUnsigned_toDigits (decide (i < 0)) hi hrest
  unfold Json.writeInt
  rw [hdigits, List.cons_append] at hread
  by_cases hneg : i < 0
  · rw [if_pos hneg, hdigits, List.singleton_append, List.cons_append, List.cons_append,
      readScalar_minus digits c _ hc]
    simp only [hneg, decide_true, if_true] at hread
    rw [hread]
    congr 3
    omega
  · rw [if_neg hneg, hdigits, List.nil_append, List.cons_append, readScalar_digit digits c _ hc]
    simp only [hneg, decide_false, Bool.false_eq_true, if_false] at hread
    rw [hread]
    congr 3
    omega

lemma isPrintable_of_isDigit {c : Char} (h : c.isDigit = true) : IsPrintable c := by
  simp only [Char.isDigit, Bool.and_eq_true, decide_eq_true_eq] at h
  have hlow : 48 ≤ c.toNat := h.1
  have hhigh : c.toNat ≤ 57 := h.2
  exact ⟨by omega, by omega⟩

lemma isPrintable_writeInt (i : Int) : ∀ c ∈ Json.writeInt i, IsPrintable c := by
  unfold Json.writeInt
  refine List.forall_mem_append.mpr ⟨?_, fun c hc => ?_⟩
  · split_ifs <;> exact isPrintable_of_all rfl
  · exact isPrintable_of_isDigit ((isDigits_toDigits i.natAbs).2 c hc)

end StoryAtlas.Proofs
