import StoryAtlas.Proofs.JsonScalars
import StoryAtlas.Proofs.TidyJson
import StoryAtlas.Server.Request

/-!
# Ids of payloads

A payload brings an id along if it is an object with a text that is not empty, or a whole number, at
the key of ids. This can be told from how the payload is spelled. The ids that are given to the
other payloads are numbered, with six digits or more, and an id tells its number.
-/

namespace StoryAtlas.Proofs

/-! ### Payloads with and without an id -/

/-- A value that is no id. -/
inductive NoId : RawJson → Prop
  | null : NoId .null
  | bool (b : Bool) : NoId (.bool b)
  | float (x : Number.Binary64) : NoId (.float x)
  | emptyText : NoId (.str [])
  | arr (items : List RawJson) : NoId (.arr items)
  | obj (fields : RawFields) : NoId (.obj fields)

/-- The id that a value stands for. A whole number stands for its decimal form. -/
inductive IsId : RawJson → String → Prop
  | text (id : String) (hne : id ≠ "") : IsId (.str (Points.ofText id)) id
  | whole (i : Int) : IsId (.int i) (toString i)

/-- The payload brings no id along. -/
inductive Anonymous : RawJson → Prop
  | notObject (spelled : RawJson) (h : ∀ fields, spelled ≠ .obj fields) : Anonymous spelled
  | missing (fields : RawFields) (h : fields.get? "id" = none) : Anonymous (.obj fields)
  | noId (fields : RawFields) (value : RawJson) (h : fields.get? "id" = some value)
      (hno : NoId value) : Anonymous (.obj fields)

/-- A whole number that has no decimal form within the limits of the interpreter. -/
def IsLong (i : Int) : Prop :=
  Json.maxDigits < (Json.digitsOf i).length

lemma anonymous_iff (spelled : RawJson) : Anonymous spelled ↔ spelled.bringsId = false := by
  constructor
  · rintro (⟨_, hnot⟩ | ⟨fields, hmissing⟩ | ⟨fields, value, hvalue, hno⟩)
    · cases spelled with
      | obj fields => exact absurd rfl (hnot fields)
      | null | bool | int | float | str | arr => rfl
    · simp only [RawJson.bringsId, hmissing]
    · cases hno <;> simp [RawJson.bringsId, hvalue]
  · intro h
    cases spelled with
    | obj fields =>
      cases hvalue : RawFields.get? fields "id" with
      | none => exact .missing fields hvalue
      | some value =>
        refine .noId fields value hvalue ?_
        simp only [RawJson.bringsId, hvalue] at h
        cases value with
        | null => exact .null
        | bool b => exact .bool b
        | int i => cases h
        | float x => exact .float x
        | str points =>
          obtain rfl : points = [] := by simpa using h
          exact .emptyText
        | arr items => exact .arr items
        | obj fields => exact .obj fields
    | null | bool | int | float | str | arr => exact .notObject _ (by simp)

/-- What the id of a payload is whose strings are texts. -/
inductive HasId : RawJson → Except Json.Refusal (Option String) → Prop
  | anonymous (spelled : RawJson) (h : Anonymous spelled) : HasId spelled (.ok none)
  | own (fields : RawFields) (value : RawJson) (id : String) (h : fields.get? "id" = some value)
      (hid : IsId value id) (hshort : ∀ i, value = .int i → ¬IsLong i) :
      HasId (.obj fields) (.ok (some id))
  | long (fields : RawFields) (i : Int) (h : fields.get? "id" = some (.int i)) (hlong : IsLong i) :
      HasId (.obj fields) (.error .longNumber)

/-- One case per form of the value at the key of ids. -/
lemma hasId_ownId {fields : RawFields} {value : RawJson} {own : Json}
    (h : fields.get? "id" = some value) (hown : value.toJson? = some own) :
    HasId (.obj fields) (ownId (some own)) := by
  have hno (hvalue : NoId value) : HasId (.obj fields) (.ok none) :=
    .anonymous _ (.noId fields value h hvalue)
  cases value with
  | null =>
    obtain rfl := Option.some.inj hown
    exact hno .null
  | bool b =>
    obtain rfl := Option.some.inj hown
    exact hno (.bool b)
  | int i =>
    obtain rfl := Option.some.inj hown
    unfold ownId
    dsimp only
    split_ifs with hlong
    · exact .long fields i h hlong
    · exact .own fields _ _ h (.whole i) fun _ hsame => RawJson.int.inj hsame ▸ hlong
  | float x =>
    obtain rfl := Option.some.inj hown
    exact hno (.float x)
  | str points =>
    obtain ⟨s, hs, rfl⟩ := Option.map_eq_some_iff.mp hown
    obtain rfl := text?_eq_some_iff.mp hs
    unfold ownId
    dsimp only
    split_ifs with hempty
    · subst hempty
      exact hno .emptyText
    · exact .own fields _ _ h (.text s hempty) fun _ hsame => nomatch hsame
  | arr items =>
    obtain ⟨values, -, rfl⟩ := Option.map_eq_some_iff.mp hown
    exact hno (.arr items)
  | obj inner =>
    obtain ⟨values, -, rfl⟩ := Option.map_eq_some_iff.mp hown
    exact hno (.obj inner)

lemma hasId_payloadId {spelled : RawJson} {payload : Json}
    (htext : spelled.toJson? = some payload) : HasId spelled (payloadId payload) := by
  cases spelled with
  | obj fields =>
    obtain ⟨found, hfound, rfl⟩ := Option.map_eq_some_iff.mp htext
    have hget := rel_get?_fieldsToJson? hfound "id"
    change HasId (.obj fields) (ownId ((Fields.ofList found.reverse).get? "id"))
    generalize (Fields.ofList found.reverse).get? "id" = own at hget
    generalize hvalue : RawFields.get? fields "id" = value at hget
    cases hget with
    | none => exact .anonymous _ (.missing fields hvalue)
    | some hown => exact hasId_ownId hvalue hown
  | null | bool | int | float =>
    obtain rfl := Option.some.inj htext
    exact .anonymous _ (.notObject _ (by simp))
  | str | arr =>
    obtain ⟨_, -, rfl⟩ := Option.map_eq_some_iff.mp htext
    exact .anonymous _ (.notObject _ (by simp))

lemma bringsId_of_isId {fields : RawFields} {value : RawJson} {id : String}
    (h : fields.get? "id" = some value) (hid : IsId value id) :
    (RawJson.obj fields).bringsId = true := by
  cases hid with
  | text id hne =>
    have hpoints : Points.ofText id ≠ [] := by simpa [Points.ofText] using hne
    simp [RawJson.bringsId, h, hpoints]
  | whole i => simp [RawJson.bringsId, h]

lemma isId_unique {value : RawJson} {id other : String} (h : IsId value id)
    (hother : IsId value other) : id = other := by
  generalize hsame : value = same at hother
  cases h with
  | text id =>
    cases hother with
    | text other => exact ofText_injective (RawJson.str.inj hsame)
    | whole => cases hsame
  | whole i =>
    cases hother with
    | text => cases hsame
    | whole j => rw [RawJson.int.inj hsame]

section HasId

variable {fields : RawFields} {value : RawJson} {own : Except Json.Refusal (Option String)}

lemma hasId_anonymous {spelled : RawJson} (h : HasId spelled own)
    (hanonymous : Anonymous spelled) : own = .ok none := by
  rw [anonymous_iff] at hanonymous
  cases h with
  | anonymous => rfl
  | own fields value id hvalue hid =>
    cases hanonymous.symm.trans (bringsId_of_isId hvalue hid)
  | long fields i hvalue =>
    cases hanonymous.symm.trans (bringsId_of_isId hvalue (.whole i))

lemma hasId_own {id : String} (h : HasId (.obj fields) own) (hvalue : fields.get? "id" = some value)
    (hid : IsId value id) (hshort : ∀ i, value = .int i → ¬IsLong i) : own = .ok (some id) := by
  cases h with
  | anonymous _ hanonymous =>
    rw [anonymous_iff, bringsId_of_isId hvalue hid] at hanonymous
    cases hanonymous
  | own _ found other hfound hother =>
    obtain rfl := Option.some.inj (hfound.symm.trans hvalue)
    rw [isId_unique hid hother]
  | long _ i hfound hlong =>
    exact absurd hlong (hshort i (Option.some.inj (hvalue.symm.trans hfound)))

lemma hasId_long {i : Int} (h : HasId (.obj fields) own)
    (hvalue : fields.get? "id" = some (.int i)) (hlong : IsLong i) :
    own = .error .longNumber := by
  cases h with
  | anonymous _ hanonymous =>
    rw [anonymous_iff, bringsId_of_isId hvalue (.whole i)] at hanonymous
    cases hanonymous
  | own _ found other hfound _ hshort =>
    exact absurd hlong (hshort i (Option.some.inj (hfound.symm.trans hvalue)))
  | long => rfl

end HasId

/-! ### The sequence of ids -/

/-- The id is `req-` and the number in decimal, filled up with zeros to six digits. -/
def IsNumbered (n : Nat) (id : String) : Prop :=
  ∃ digits, id = "req-" ++ String.ofList digits ∧ IsDigits digits ∧
    Nat.ofDigitChars 10 digits 0 = n ∧ 6 ≤ digits.length ∧
    (6 < digits.length → digits.head? ≠ some '0')

lemma isNumbered_fallbackId (n : Nat) : IsNumbered n (fallbackId n) := by
  have hdigits := isDigits_toDigits n
  refine ⟨List.replicate (6 - (Nat.toDigits 10 n).length) '0' ++ Nat.toDigits 10 n, rfl,
    ⟨?_, ?_⟩, ?_, ?_, ?_⟩
  · simp [hdigits.1]
  · intro c hc
    rcases List.mem_append.mp hc with hzero | hdigit
    · rw [List.eq_of_mem_replicate hzero]
      decide
    · exact hdigits.2 c hdigit
  · rw [Nat.ofDigitChars_append, Nat.ofDigitChars_replicate_zero, Nat.mul_zero,
      Nat.ofDigitChars_ten_toDigits]
  · rw [List.length_append, List.length_replicate]
    omega
  · intro hlong
    rw [List.length_append, List.length_replicate] at hlong
    have hfilled : 6 - (Nat.toDigits 10 n).length = 0 := by omega
    rw [hfilled, List.replicate_zero, List.nil_append]
    refine head?_toDigits n ?_
    rintro rfl
    simp at hfilled

/-- An id tells its number. -/
lemma eq_of_isNumbered {n m : Nat} {id : String} (h : IsNumbered n id) (h' : IsNumbered m id) :
    n = m := by
  obtain ⟨digits, rfl, _, rfl, _⟩ := h
  obtain ⟨digits', hsame, _, rfl, _⟩ := h'
  have hlist := congrArg String.toList hsame
  simp only [String.toList_append, String.toList_ofList] at hlist
  rw [List.append_cancel_left hlist]

lemma fallbackId_injective : Function.Injective fallbackId := by
  intro n m hsame
  have hn := isNumbered_fallbackId n
  rw [hsame] at hn
  exact eq_of_isNumbered hn (isNumbered_fallbackId m)

example : fallbackId 1 = "req-000001" ∧ fallbackId 1234567 = "req-1234567" := by decide

end StoryAtlas.Proofs
