import Mathlib.Data.List.DropRight
import StoryAtlas.Proofs.JsonScalars

/-!
# Texts of floating-point values

The shortest decimal text of a floating-point value has an integral part without needless zeros and
a fraction or an exponent, so that a JSON text with it reads as a floating-point value again.
-/

namespace StoryAtlas.Proofs
open StoryAtlas.Text StoryAtlas.Number

/-- The text of a number with a fraction or an exponent, or both. -/
inductive FloatText : List Char → Prop
  | positional (whole fraction : List Char) (hwhole : IsWhole whole)
      (hfraction : IsDigits fraction) : FloatText (whole ++ '.' :: fraction)
  | scientific (whole fraction : List Char) (sign : Char) (digits : List Char)
      (hwhole : IsWhole whole)
      (hfraction : fraction = [] ∨ ∃ places, fraction = '.' :: places ∧ IsDigits places)
      (hsign : sign = '+' ∨ sign = '-') (hdigits : IsDigits digits) :
      FloatText (whole ++ (fraction ++ 'e' :: sign :: digits))

/-! ### Reading -/

lemma numberOf_fraction (negative : Bool) (whole fraction : List Char) (exponent : Option Int)
    (h : fraction ≠ [] ∨ exponent ≠ none) :
    ∃ x, ∀ digits, Json.numberOf digits negative whole fraction exponent = .ok (.float x) := by
  exact ⟨_, fun digits => if_neg (by tauto)⟩

lemma readExponent_digits (sign : Char) (digits : List Char) (hsign : sign = '+' ∨ sign = '-')
    (hdigits : IsDigits digits) : ∃ exponent, ∀ rest, NoDigit rest →
      Json.readExponent ('e' :: sign :: (digits ++ rest)) = (some exponent, rest) := by
  rcases hsign with rfl | rfl
  · refine ⟨Nat.ofDigitChars 10 digits 0, fun rest hrest => ?_⟩
    simp [Json.readExponent, Json.readSign, readDigits?_append digits rest hdigits hrest]
  · refine ⟨-Nat.ofDigitChars 10 digits 0, fun rest hrest => ?_⟩
    simp [Json.readExponent, Json.readSign, readDigits?_append digits rest hdigits hrest]

/-- The text reads as one value whatever comes behind it. -/
lemma readUnsigned_floatText (negative : Bool) (text : List Char) (h : FloatText text) :
    ∃ x, ∀ digits rest, Ends rest →
      Json.readUnsigned digits negative (text ++ rest) = .ok (.float x, rest) := by
  cases h with
  | positional whole fraction hwhole hfraction =>
    obtain ⟨x, hx⟩ := numberOf_fraction negative whole fraction none (Or.inl hfraction.1)
    refine ⟨x, fun digits rest hrest => ?_⟩
    rw [List.append_assoc, List.cons_append]
    exact readUnsigned_append hwhole (noDigit_cons _ (by decide)) (readFraction_digits fraction rest
      hfraction (noDigit_of_ends hrest)) (readExponent_ends hrest) (hx digits)
  | scientific whole fraction sign digits hwhole hfraction hsign hdigits =>
    obtain ⟨exponent, hexponent⟩ := readExponent_digits sign digits hsign hdigits
    obtain ⟨places, hplaces⟩ : ∃ places, ∀ rest, Json.readFraction (fraction ++ 'e' :: rest) =
        (places, 'e' :: rest) ∧ NoDigit (fraction ++ 'e' :: rest) := by
      rcases hfraction with rfl | ⟨places, rfl, hdigits⟩
      · exact ⟨[], fun rest => ⟨readFraction_of_ne 'e' rest (by decide),
          noDigit_cons rest (by decide)⟩⟩
      · exact ⟨places, fun rest => ⟨readFraction_digits places _ hdigits
          (noDigit_cons rest (by decide)), noDigit_cons _ (by decide)⟩⟩
    obtain ⟨x, hx⟩ := numberOf_fraction negative whole places (some exponent) (Or.inr (by simp))
    refine ⟨x, fun bound rest hrest => ?_⟩
    obtain ⟨hread, htail⟩ := hplaces (sign :: (digits ++ rest))
    rw [List.append_assoc, List.append_assoc, List.cons_append, List.cons_append]
    exact readUnsigned_append hwhole htail hread (hexponent rest (noDigit_of_ends hrest)) (hx bound)

lemma floatText_cons (text : List Char) (h : FloatText text) :
    ∃ c rest, text = c :: rest ∧ c.isDigit = true := by
  have hwhole : ∀ whole tail, IsWhole whole → ∃ c rest, whole ++ tail = c :: rest ∧
      c.isDigit = true := by
    intro whole tail h
    obtain ⟨c, cs, rfl⟩ := List.exists_cons_of_ne_nil h.1.1
    exact ⟨c, cs ++ tail, rfl, h.1.2 c List.mem_cons_self⟩
  cases h with
  | positional whole fraction h _ => exact hwhole whole _ h
  | scientific whole fraction sign digits h _ _ _ => exact hwhole whole _ h

lemma isPrintable_floatText (text : List Char) (h : FloatText text) :
    ∀ c ∈ text, IsPrintable c := by
  have hdigits : ∀ digits, IsDigits digits → ∀ c ∈ digits, IsPrintable c :=
    fun digits h c hc => isPrintable_of_isDigit (h.2 c hc)
  cases h with
  | positional whole fraction hwhole hfraction =>
    exact List.forall_mem_append.mpr ⟨hdigits whole hwhole.1,
      List.forall_mem_cons.mpr ⟨by decide, hdigits fraction hfraction⟩⟩
  | scientific whole fraction sign digits hwhole hfraction hsign hexponent =>
    refine List.forall_mem_append.mpr ⟨hdigits whole hwhole.1, List.forall_mem_append.mpr ⟨?_, ?_⟩⟩
    · rcases hfraction with rfl | ⟨places, rfl, hplaces⟩
      · simp
      · exact List.forall_mem_cons.mpr ⟨by decide, hdigits places hplaces⟩
    · refine List.forall_mem_cons.mpr ⟨by decide,
        List.forall_mem_cons.mpr ⟨?_, hdigits digits hexponent⟩⟩
      rcases hsign with rfl | rfl <;> decide

/-! ### Writing -/

/-- The significant digits of a number that is not zero begin with its first digit. -/
lemma significant_of_ne_zero (d : Decimal) (h : d.digits ≠ 0) :
    IsDigits d.significant ∧ d.significant.head? ≠ some '0' := by
  have hfirst := head?_toDigits d.digits h
  have hbegin : d.significant <+: Nat.toDigits 10 d.digits := List.rdropWhile_prefix _ _
  have hne : d.significant ≠ [] := by
    intro hnil
    have hzeros := List.rdropWhile_eq_nil_iff.mp hnil
    obtain ⟨c, cs, hdigits⟩ := List.exists_cons_of_ne_nil (isDigits_toDigits d.digits).1
    have hc : c = '0' := by simpa using hzeros c (by simp [hdigits])
    exact hfirst (by simp [hdigits, hc])
  refine ⟨⟨hne, fun c hc => (isDigits_toDigits d.digits).2 c (hbegin.subset hc)⟩, ?_⟩
  obtain ⟨more, hmore⟩ := hbegin
  rwa [← hmore, List.head?_append_of_ne_nil _ hne] at hfirst

lemma isWhole_of_head? {digits : List Char} (h : IsDigits digits)
    (hhead : digits.head? ≠ some '0') : IsWhole digits :=
  ⟨h, fun hzero => absurd hzero hhead⟩

lemma isWhole_take {digits : List Char} (h : IsDigits digits) (hhead : digits.head? ≠ some '0')
    (count : Nat) (hcount : 0 < count) : IsWhole (digits.take count) := by
  obtain ⟨c, cs, rfl⟩ := List.exists_cons_of_ne_nil h.1
  obtain ⟨count, rfl⟩ := Nat.exists_eq_add_of_lt hcount
  refine isWhole_of_head? ⟨by simp, fun d hd => h.2 d (List.mem_of_mem_take hd)⟩ ?_
  simpa using hhead

lemma isDigits_drop {digits : List Char} (h : IsDigits digits) (count : Nat)
    (hcount : count < digits.length) : IsDigits (digits.drop count) :=
  ⟨by simpa using hcount, fun c hc => h.2 c (List.mem_of_mem_drop hc)⟩

lemma exponentText_eq (e : Int) : ∃ sign digits, exponentText e = sign :: digits ∧
    (sign = '+' ∨ sign = '-') ∧ IsDigits digits := by
  have hdigits := isDigits_toDigits e.natAbs
  have hpadded : IsDigits (if (Nat.toDigits 10 e.natAbs).length < 2 then
      '0' :: Nat.toDigits 10 e.natAbs else Nat.toDigits 10 e.natAbs) := by
    split_ifs
    · exact ⟨by simp, List.forall_mem_cons.mpr ⟨by decide, hdigits.2⟩⟩
    · exact hdigits
  by_cases he : e < 0
  · exact ⟨'-', _, by simp [exponentText, he], Or.inr rfl, hpadded⟩
  · exact ⟨'+', _, by simp [exponentText, he], Or.inl rfl, hpadded⟩

lemma floatText_of_ne_zero (d : Decimal) (h : d.digits ≠ 0) : FloatText d.text := by
  obtain ⟨hdigits, hhead⟩ := significant_of_ne_zero d h
  obtain ⟨sign, digits, hexponent, hsign, hexponentDigits⟩ := exponentText_eq (d.point - 1)
  have hzeros : ∀ count, ∀ c ∈ List.replicate count '0', c.isDigit = true := by
    intro count c hc
    rw [List.eq_of_mem_replicate hc]
    decide
  have hlength : 0 < d.significant.length := List.length_pos_of_ne_nil hdigits.1
  unfold Decimal.text
  dsimp only
  split_ifs with hrange hsmall hfit hone
  · rw [List.append_assoc]
    refine .positional ['0'] (List.replicate (-d.point).toNat '0' ++ d.significant) isWhole_zero
      ⟨by simp [hdigits.1], ?_⟩
    exact List.forall_mem_append.mpr ⟨hzeros _, hdigits.2⟩
  · refine .positional _ ['0'] (isWhole_of_head? (isDigits_append hdigits (hzeros _)) ?_)
      ⟨by simp, by simp⟩
    rwa [List.head?_append_of_ne_nil _ hdigits.1]
  · exact .positional _ _ (isWhole_take hdigits hhead _ (by omega))
      (isDigits_drop hdigits _ (by omega))
  · rw [hexponent, List.append_assoc]
    exact .scientific _ [] sign digits (isWhole_take hdigits hhead 1 (by omega)) (Or.inl rfl) hsign
      hexponentDigits
  · rw [hexponent, List.append_assoc]
    exact .scientific _ _ sign digits (isWhole_take hdigits hhead 1 (by omega))
      (Or.inr ⟨_, rfl, isDigits_drop hdigits 1 (by omega)⟩) hsign hexponentDigits

lemma digits_onGrid? (i : RoundingInterval) (r : Ratio) (e : Int) (d : Decimal)
    (h : onGrid? i r e = some d) : d.digits ≠ 0 := by
  unfold onGrid? at h
  dsimp only at h
  split at h
  · cases h
  · next hlower _ =>
    obtain rfl := Option.some.inj h
    simp_all
  · obtain rfl := Option.some.inj h
    exact Nat.succ_ne_zero _
  · next hlower _ =>
    split_ifs at h
    · obtain rfl := Option.some.inj h
      simp_all
    · obtain rfl := Option.some.inj h
      exact Nat.succ_ne_zero _

lemma floatText_shortest (mantissa : Nat) (exponent : Int) :
    FloatText (shortest mantissa exponent).text := by
  unfold shortest
  dsimp only
  cases hfound : (List.range 17).findSome? _ with
  | none => exact .positional ['0'] ['0'] isWhole_zero ⟨by simp, by simp⟩
  | some d =>
    obtain ⟨n, _, hgrid⟩ := List.exists_of_findSome?_eq_some hfound
    exact floatText_of_ne_zero d (digits_onGrid? _ _ _ d hgrid)

lemma floatText_finite (mantissa : Nat) (exponent : Int) :
    FloatText (if mantissa = 0 then ['0', '.', '0'] else (shortest mantissa exponent).text) := by
  split_ifs
  · exact .positional ['0'] ['0'] isWhole_zero ⟨by simp, by simp⟩
  · exact floatText_shortest mantissa exponent

/-- What is written for a floating-point value reads as a floating-point value. -/
lemma readScalar_float (x : Binary64) : ∃ y, ∀ digits rest, Ends rest →
    Json.readScalar digits (x.text Json.floatWords ++ rest) = .ok (.float y, rest) := by
  cases x with
  | nan => exact ⟨.nan, fun _ rest _ => rfl⟩
  | infinity negative => exact ⟨.infinity negative, fun _ rest _ => by cases negative <;> rfl⟩
  | finite negative mantissa exponent =>
    have htext := floatText_finite mantissa exponent
    obtain ⟨c, cs, hcons, hc⟩ := floatText_cons _ htext
    obtain ⟨y, hy⟩ := readUnsigned_floatText negative _ htext
    refine ⟨y, fun digits rest hrest => ?_⟩
    have hread := hy digits rest hrest
    unfold Binary64.text
    dsimp only
    rw [hcons] at hread ⊢
    cases negative with
    | false => exact (readScalar_digit digits c _ hc).trans hread
    | true => exact (readScalar_minus digits c _ hc).trans hread

lemma isPrintable_float (x : Binary64) : ∀ c ∈ x.text Json.floatWords, IsPrintable c := by
  cases x with
  | nan => exact isPrintable_of_all rfl
  | infinity negative => cases negative <;> exact isPrintable_of_all rfl
  | finite negative mantissa exponent =>
    refine List.forall_mem_append.mpr ⟨?_, isPrintable_floatText _ (floatText_finite _ _)⟩
    split_ifs <;> exact isPrintable_of_all rfl

end StoryAtlas.Proofs
