import Mathlib.Tactic.Ring
import StoryAtlas.Proofs.JsonScalars
import StoryAtlas.Proofs.TidyJson
import StoryAtlas.Server.Dispatch

/-!
# What is read is within the bounds

No whole number in a value that was read has more digits than the reader takes, and so has none in a
part of the value. Hence neither the id of a request from a line of input nor an argument that its
record repeats is too long to be written.
-/

namespace StoryAtlas.Proofs
open StoryAtlas.Number

/-! ### Whole numbers -/

lemma ofDigitChars_lt {digits : List Char} (h : ∀ c ∈ digits, c.isDigit = true) (start : Nat) :
    Nat.ofDigitChars 10 digits start < (start + 1) * 10 ^ digits.length := by
  induction digits generalizing start with
  | nil => simp
  | cons c digits ih =>
    obtain ⟨hc, hdigits⟩ := List.forall_mem_cons.mp h
    simp only [Char.isDigit, Bool.and_eq_true, decide_eq_true_eq] at hc
    have hlow : 48 ≤ c.toNat := hc.1
    have hhigh : c.toNat ≤ 57 := hc.2
    have hzero : '0'.toNat = 48 := rfl
    rw [Nat.ofDigitChars_cons, List.length_cons]
    calc Nat.ofDigitChars 10 digits (10 * start + (c.toNat - '0'.toNat))
        < (10 * start + (c.toNat - '0'.toNat) + 1) * 10 ^ digits.length := ih hdigits _
      _ ≤ (start + 1) * 10 * 10 ^ digits.length := Nat.mul_le_mul_right _ (by omega)
      _ = (start + 1) * 10 ^ (digits.length + 1) := by ring

/-- The number that digits spell has no more digits than they are. -/
lemma length_toDigits_ofDigitChars {digits : List Char} (h : IsDigits digits) :
    (Nat.toDigits 10 (Nat.ofDigitChars 10 digits 0)).length ≤ digits.length := by
  have hlt := ofDigitChars_lt h.2 0
  rw [Nat.zero_add, Nat.one_mul] at hlt
  exact (Nat.length_toDigits_le_iff (by decide) (List.length_pos_of_ne_nil h.1)).mpr hlt

lemma isDigits_of_readDigits? {cs digits rest : List Char}
    (h : Json.readDigits? cs = some (digits, rest)) : IsDigits digits := by
  unfold Json.readDigits? at h
  split_ifs at h with hempty
  obtain ⟨rfl, -⟩ := Prod.mk.injEq .. ▸ Option.some.inj h
  exact ⟨fun hnil => hempty (by simp [hnil]), fun c hc => List.mem_takeWhile_imp hc⟩

lemma isDigits_of_readWhole? {cs whole rest : List Char}
    (h : Json.readWhole? cs = some (whole, rest)) : IsDigits whole := by
  unfold Json.readWhole? at h
  split at h
  · obtain ⟨rfl, -⟩ := Prod.mk.injEq .. ▸ Option.some.inj h
    exact isWhole_zero.1
  · exact isDigits_of_readDigits? h

/-! ### Values -/

/-- No whole number in the value has more digits than given. -/
inductive Narrow (digits : Nat) : RawJson → Prop
  | null : Narrow digits .null
  | bool (b : Bool) : Narrow digits (.bool b)
  | int (i : Int) (hdigits : (Json.digitsOf i).length ≤ digits) : Narrow digits (.int i)
  | float (x : Binary64) : Narrow digits (.float x)
  | str (points : Points) : Narrow digits (.str points)
  | arr (items : List RawJson) (hitems : ∀ item ∈ items, Narrow digits item) :
      Narrow digits (.arr items)
  | obj (fields : RawFields) (hvalues : ∀ field ∈ fields, Narrow digits field.2) :
      Narrow digits (.obj fields)

variable {digits : Nat}

lemma narrow_numberOf {negative : Bool} {whole fraction : List Char} {exponent : Option Int}
    {v : RawJson} (hwhole : IsDigits whole)
    (h : Json.numberOf digits negative whole fraction exponent = .ok v) : Narrow digits v := by
  unfold Json.numberOf at h
  dsimp only at h
  split_ifs at h with hint hlong hnegative
  · cases h
    have hle := (length_toDigits_ofDigitChars hwhole).trans (not_lt.mp hlong)
    exact .int _ (by simpa [Json.digitsOf] using hle)
  · cases h
    exact .int _ ((length_toDigits_ofDigitChars hwhole).trans (not_lt.mp hlong))
  · cases h
    exact .float _

lemma map_eq_ok {ε α β : Type} {found : Except ε α} {f : α → β} {b : β} (h : found.map f = .ok b) :
    ∃ a, found = .ok a ∧ f a = b := by
  cases found with
  | error e => cases h
  | ok a => exact ⟨a, rfl, Except.ok.inj h⟩

lemma narrow_readUnsigned {negative : Bool} {cs rest : List Char} {v : RawJson}
    (h : Json.readUnsigned digits negative cs = .ok (v, rest)) : Narrow digits v := by
  unfold Json.readUnsigned at h
  split at h
  · cases h
  next whole tail hwhole =>
  obtain ⟨value, hvalue, hpair⟩ := map_eq_ok h
  cases hpair
  exact narrow_numberOf (isDigits_of_readWhole? hwhole) hvalue

lemma narrow_readScalar {cs rest : List Char} {v : RawJson}
    (h : Json.readScalar digits cs = .ok (v, rest)) : Narrow digits v := by
  unfold Json.readScalar at h
  split at h
  · cases h
    exact .null
  · cases h
    exact .bool true
  · cases h
    exact .bool false
  · cases h
    exact .float _
  · cases h
    exact .float _
  · cases h
    exact .float _
  · exact narrow_readUnsigned h
  · exact narrow_readUnsigned h

lemma narrow_put {fields : RawFields} (h : ∀ field ∈ fields, Narrow digits field.2) (key : Points)
    {value : RawJson} (hvalue : Narrow digits value) :
    ∀ field ∈ fields.put key value, Narrow digits field.2 := by
  induction fields with
  | nil => simpa [RawFields.put] using hvalue
  | cons first fields ih =>
    obtain ⟨hfirst, hrest⟩ := List.forall_mem_cons.mp h
    unfold RawFields.put
    split_ifs with hkey
    · exact List.forall_mem_cons.mpr ⟨hvalue, hrest⟩
    · exact List.forall_mem_cons.mpr ⟨hfirst, ih hrest⟩

/-- What the reader has read behind any number of steps is narrow. -/
lemma narrow_read (fuel : Nat) :
    (∀ depth cs v rest, Json.readValue digits fuel depth cs = .ok (v, rest) → Narrow digits v) ∧
    (∀ depth cs items rest, Json.readItems digits fuel depth cs = .ok (items, rest) →
      ∀ item ∈ items, Narrow digits item) ∧
    (∀ depth fields cs v rest, (∀ field ∈ fields, Narrow digits field.2) →
      Json.readFields digits fuel depth fields cs = .ok (v, rest) → Narrow digits v) := by
  induction fuel with
  | zero => simp [Json.readValue, Json.readItems, Json.readFields]
  | succ fuel ih =>
    obtain ⟨hvalue, hitems, hfields⟩ := ih
    refine ⟨fun depth cs v rest h => ?_, fun depth cs items rest h => ?_,
      fun depth fields cs v rest hread h => ?_⟩
    · unfold Json.readValue at h
      split at h
      · -- a string
        split at h
        · cases h
        · cases h
          exact .str _
      · -- an array
        split at h
        · cases h
        split at h
        · cases h
          exact .arr [] (by simp)
        · obtain ⟨found, hfound, hpair⟩ := map_eq_ok h
          cases hpair
          exact .arr _ (hitems _ _ _ _ hfound)
      · -- an object
        split at h
        · cases h
        split at h
        · cases h
          exact .obj [] (by simp)
        · exact hfields _ _ _ _ _ (by simp) h
      · exact narrow_readScalar h
    · unfold Json.readItems at h
      split at h
      · cases h
      next item tail hitem =>
      have hfirst := hvalue _ _ _ _ hitem
      split at h
      · cases h
        simpa using hfirst
      · obtain ⟨found, hfound, hpair⟩ := map_eq_ok h
        cases hpair
        exact List.forall_mem_cons.mpr ⟨hfirst, hitems _ _ _ _ hfound⟩
      · cases h
    · unfold Json.readFields at h
      split at h
      · split at h
        · cases h
        next key tail _ =>
        split at h
        · split at h
          · cases h
          next value tail hfound =>
          have hput := narrow_put hread key (hvalue _ _ _ _ hfound)
          split at h
          · cases h
            exact .obj _ hput
          · exact hfields _ _ _ _ _ hput h
          · cases h
        · cases h
      · cases h

/-! ### Widths -/

lemma itemsWidth_le_iff (items : List Json) (bound : Nat) :
    Json.itemsWidth items ≤ bound ↔ ∀ item ∈ items, item.width ≤ bound := by
  induction items with
  | nil => simp [Json.itemsWidth]
  | cons item items ih => simp [Json.itemsWidth, ih]

lemma fieldsWidth_le_iff (fields : List (String × Json)) (bound : Nat) :
    Json.fieldsWidth fields ≤ bound ↔ ∀ field ∈ fields, field.2.width ≤ bound := by
  induction fields with
  | nil => simp [Json.fieldsWidth]
  | cons field fields ih => simp [Json.fieldsWidth, ih]

lemma mem_insertAll (fields more : List (String × Json)) :
    ∀ field ∈ Fields.insertAll fields more, field ∈ fields ∨ field ∈ more := by
  induction more generalizing fields with
  | nil => exact fun field hfield => Or.inl hfield
  | cons first more ih =>
    intro field hfield
    rcases ih _ field hfield with hset | hmore
    · rcases mem_insert _ _ _ field hset with rfl | hold
      · exact Or.inr List.mem_cons_self
      · exact Or.inl hold
    · exact Or.inr (List.mem_cons_of_mem _ hmore)

lemma width_object_le {fields : List (String × Json)} {bound : Nat}
    (h : ∀ field ∈ fields, field.2.width ≤ bound) : (Json.object fields).width ≤ bound := by
  refine (fieldsWidth_le_iff _ _).mpr fun field hfield => ?_
  rcases mem_insertAll [] fields field hfield with hnone | hmem
  · cases hnone
  · exact h field hmem

mutual

/-- The value that narrow code points spell is as narrow. -/
theorem width_toJson? (raw : RawJson) (v : Json) (hnarrow : Narrow digits raw)
    (h : raw.toJson? = some v) : v.width ≤ digits := by
  cases hnarrow with
  | null => exact Option.some.inj h ▸ Nat.zero_le _
  | bool b => exact Option.some.inj h ▸ Nat.zero_le _
  | int i hdigits => exact Option.some.inj h ▸ hdigits
  | float x => exact Option.some.inj h ▸ Nat.zero_le _
  | str points =>
    obtain ⟨s, _, rfl⟩ := Option.map_eq_some_iff.mp h
    exact Nat.zero_le _
  | arr items hitems =>
    obtain ⟨values, hvalues, rfl⟩ := Option.map_eq_some_iff.mp h
    exact (itemsWidth_le_iff values _).mpr (width_itemsToJson? items values hitems hvalues)
  | obj fields hfields =>
    obtain ⟨values, hvalues, rfl⟩ := Option.map_eq_some_iff.mp h
    exact width_object_le fun field hfield =>
      width_fieldsToJson? fields values hfields hvalues field (List.mem_reverse.mp hfield)

theorem width_itemsToJson? (items : List RawJson) (values : List Json)
    (hnarrow : ∀ item ∈ items, Narrow digits item)
    (h : RawJson.itemsToJson? items = some values) : ∀ value ∈ values, value.width ≤ digits := by
  cases items with
  | nil =>
    obtain rfl := Option.some.inj h
    simp
  | cons item items =>
    obtain ⟨hitem, hitems⟩ := List.forall_mem_cons.mp hnarrow
    unfold RawJson.itemsToJson? at h
    split at h
    · next value others hvalue hothers =>
      obtain rfl := Option.some.inj h
      exact List.forall_mem_cons.mpr ⟨width_toJson? item value hitem hvalue,
        width_itemsToJson? items others hitems hothers⟩
    · cases h

theorem width_fieldsToJson? (fields : List (Points × RawJson)) (values : List (String × Json))
    (hnarrow : ∀ field ∈ fields, Narrow digits field.2)
    (h : RawJson.fieldsToJson? fields = some values) :
    ∀ field ∈ values, field.2.width ≤ digits := by
  cases fields with
  | nil =>
    obtain rfl := Option.some.inj h
    simp
  | cons field fields =>
    obtain ⟨key, value⟩ := field
    obtain ⟨hvalue, hfields⟩ := List.forall_mem_cons.mp hnarrow
    unfold RawJson.fieldsToJson? at h
    split at h
    · next name found others _ hfound hothers =>
      obtain rfl := Option.some.inj h
      exact List.forall_mem_cons.mpr ⟨width_toJson? value found hvalue hfound,
        width_fieldsToJson? fields others hfields hothers⟩
    · cases h

end

/-- What is read has no whole number with more digits than the bounds allow. -/
lemma width_parse {bounds : Json.Bounds} {s : String} {v : Json}
    (h : Json.parse bounds s = .ok v) : v.width ≤ bounds.digits := by
  unfold Json.parse at h
  split at h
  · cases h
  next raw hraw =>
  split at h
  · next value hvalue =>
    cases h
    refine width_toJson? raw v ?_ hvalue
    unfold Json.parseChars at hraw
    split at hraw
    · cases hraw
    next found rest hfound =>
    split_ifs at hraw with hend
    cases hraw
    exact (narrow_read _).1 _ _ _ _ hfound
  · cases h

/-! ### Brackets -/

lemma fieldsDepth_le_iff (fields : List (String × Json)) (bound : Nat) :
    Json.fieldsDepth fields ≤ bound ↔ ∀ field ∈ fields, field.2.depth ≤ bound := by
  induction fields with
  | nil => simp [Json.fieldsDepth]
  | cons field fields ih => simp [Json.fieldsDepth, ih]

lemma depth_object_le {fields : List (String × Json)} {bound : Nat}
    (h : ∀ field ∈ fields, field.2.depth ≤ bound) : (Json.object fields).depth ≤ bound + 1 := by
  refine Nat.succ_le_succ ((fieldsDepth_le_iff _ _).mpr fun field hfield => ?_)
  rcases mem_insertAll [] fields field hfield with hnone | hmem
  · cases hnone
  · exact h field hmem

lemma readValue_replicate {depth count fuel : Nat} (h : depth < count) (hfuel : 2 * count ≤ fuel) :
    Json.readValue digits fuel depth (List.replicate count '[') = .error (.refused .tooDeep) := by
  induction depth generalizing count fuel with
  | zero =>
    obtain ⟨count, rfl⟩ := Nat.exists_eq_add_of_lt h
    obtain ⟨fuel, rfl⟩ := Nat.exists_eq_add_of_le' (show 1 ≤ fuel by omega)
    rfl
  | succ depth ih =>
    obtain ⟨count, rfl⟩ := Nat.exists_eq_add_of_le' (show 2 ≤ count by omega)
    obtain ⟨fuel, rfl⟩ := Nat.exists_eq_add_of_le' (show 2 ≤ fuel by omega)
    have hinner : Json.readValue digits fuel depth ('[' :: List.replicate count '[') =
        .error (.refused .tooDeep) := @ih (count + 1) fuel (by omega) (by omega)
    have hskip : Json.skipGap ('[' :: List.replicate count '[') = '[' :: List.replicate count '[' :=
      List.dropWhile_cons_of_neg (by decide)
    have hitems : Json.readItems digits (fuel + 1) depth ('[' :: List.replicate count '[') =
        .error (.refused .tooDeep) := by
      rw [Json.readItems, hinner]
    rw [List.replicate_succ, List.replicate_succ, Json.readValue, hskip]
    exact congrArg (Except.map _) hitems

/-- Brackets that are nested deeper than the bounds allow are refused before it is seen that they
are not closed. -/
lemma parseChars_replicate {bounds : Json.Bounds} {count : Nat} (h : bounds.depth < count) :
    Json.parseChars bounds (List.replicate count '[') = .error (.refused .tooDeep) := by
  have hskip : Json.skipGap (List.replicate count '[') = List.replicate count '[' := by
    cases count with
    | zero => rfl
    | succ count => exact List.dropWhile_cons_of_neg (by decide)
  rw [Json.parseChars, hskip, readValue_replicate h (by rw [List.length_replicate]; omega)]

/-! ### Requests -/

lemma width_get? {fields : Fields} {bound : Nat} (h : Json.fieldsWidth fields ≤ bound)
    {key : String} (value : Json) (hget : fields.get? key = some value) :
    value.width ≤ bound := by
  obtain ⟨front, rest, rfl, -⟩ := List.lookup_eq_some_iff.mp hget
  exact (fieldsWidth_le_iff _ _).mp h (key, value) (by simp)

/-- A payload that was read has an id that can be rendered, or none. -/
lemma exists_chooseId (used : Nat) {payload : Json} (h : payload.width ≤ Json.maxDigits) :
    ∃ id used', chooseId used payload = .ok (id, used') := by
  have hown : ∃ own, payloadId payload = .ok own := by
    unfold payloadId
    split
    · next fields =>
      unfold ownId
      split
      · next i hget =>
        have hi : (Json.digitsOf i).length ≤ Json.maxDigits := width_get? h (.int i) hget
        exact ⟨_, if_neg (not_lt.mpr hi)⟩
      · exact ⟨_, rfl⟩
      · exact ⟨_, rfl⟩
    · exact ⟨_, rfl⟩
  obtain ⟨own, hown⟩ := hown
  unfold chooseId
  rw [hown]
  cases own with
  | none => exact ⟨_, _, rfl⟩
  | some id => exact ⟨_, _, rfl⟩

lemma width_objectOr {fields : Fields} {bound : Nat} (h : Json.fieldsWidth fields ≤ bound)
    {found : Fields} {key : String} {error : RequestError}
    (hobject : objectOr (fields.get? key) error = .ok found) : Json.fieldsWidth found ≤ bound := by
  unfold objectOr at hobject
  split at hobject
  · cases hobject
    exact Nat.zero_le _
  · next hget =>
    cases hobject
    exact width_get? h (.obj found) hget
  · cases hobject

/-- The arguments of a request are as narrow as the payload that they come from. -/
lemma width_arguments {payload : Json} {id : String} {request : Request} {bound : Nat}
    (h : payload.width ≤ bound) (hread : Request.read id payload = .ok request) :
    Json.fieldsWidth request.arguments ≤ bound := by
  have hcall : ∃ tool arguments, readCall payload = .ok (tool, arguments) ∧
      request = ⟨id, tool, arguments⟩ := by
    unfold Request.read at hread
    split at hread
    · cases hread
    · next tool arguments hcall => exact ⟨tool, arguments, hcall, (Except.ok.inj hread).symm⟩
  obtain ⟨tool, arguments, hcall, rfl⟩ := hcall
  unfold readCall at hcall
  split at hcall
  swap
  · cases hcall
  next fields =>
  split at hcall
  · cases hcall
  split at hcall
  · cases hcall
  next params hparams =>
  have hfields : Json.fieldsWidth fields ≤ bound := h
  have hwidth := width_objectOr hfields hparams
  split_ifs at hcall with hwrapped
  · -- the parameters name the tool
    unfold unwrapCall at hcall
    split at hcall
    · cases hcall
    split at hcall
    · cases hcall
    next members hmembers =>
    cases hcall
    exact width_objectOr hwidth hmembers
  · cases hcall
    exact hwidth

lemma refusal?_nil (room : Nat) : Fields.refusal? (.within room) [] = none := by
  simp [Fields.refusal?, Json.fieldsDepth, Json.fieldsWidth]

/-- The arguments that a record repeats are neither lists nor objects. -/
lemma refusal?_keptArguments (room : Nat) {arguments : Fields}
    (h : Json.fieldsWidth arguments ≤ Json.maxDigits) :
    (keptArguments arguments).refusal? (.within room) = none := by
  have hdepth : Json.fieldsDepth (keptArguments arguments) ≤ 0 := by
    refine (fieldsDepth_le_iff _ _).mpr fun field hfield => ?_
    have hkept := (List.mem_filter.mp hfield).2
    cases hvalue : field.2 <;> simp_all [isKeptValue, Json.depth]
  have hwidth : Json.fieldsWidth (keptArguments arguments) ≤ (Json.Bounds.within room).digits :=
    (fieldsWidth_le_iff _ _).mpr fun field hfield =>
      (fieldsWidth_le_iff _ _).mp h field (List.mem_of_mem_filter hfield)
  rw [Fields.refusal?, if_neg (not_lt.mpr (hdepth.trans (Nat.zero_le _))),
    if_neg (not_lt.mpr hwidth)]

end StoryAtlas.Proofs
