import Mathlib.Data.String.Basic
import StoryAtlas.Json.Reader

/-!
# JSON values in order

The fields of an object stand in increasing order of their keys. Every value that a text spells has
this order throughout, and so has one that is made field by field.
-/

namespace StoryAtlas.Proofs
open StoryAtlas.Number

/-- The keys of every object in the value increase. -/
inductive Tidy : Json → Prop
  | null : Tidy .null
  | bool (b : Bool) : Tidy (.bool b)
  | int (i : Int) : Tidy (.int i)
  | float (x : Binary64) : Tidy (.float x)
  | str (s : String) : Tidy (.str s)
  | arr (items : List Json) (hitems : ∀ item ∈ items, Tidy item) : Tidy (.arr items)
  | obj (fields : List (String × Json)) (hkeys : fields.Pairwise fun a b => a.1 < b.1)
      (hvalues : ∀ field ∈ fields, Tidy field.2) : Tidy (.obj fields)

attribute [simp] Tidy.null Tidy.bool Tidy.int Tidy.float Tidy.str

/-- Fields in increasing order of their keys, with values of the same kind. -/
def TidyFields (fields : Fields) : Prop :=
  fields.Pairwise (fun a b => a.1 < b.1) ∧ ∀ field ∈ fields, Tidy field.2

lemma tidy_obj_iff (fields : Fields) : Tidy (.obj fields) ↔ TidyFields fields := by
  constructor
  · rintro ⟨⟩
    exact ⟨‹_›, ‹_›⟩
  · rintro ⟨hkeys, hvalues⟩
    exact .obj fields hkeys hvalues

/-! ### Fields one by one -/

lemma mem_insert (key : String) (value : Json) (fields : Fields) :
    ∀ field ∈ fields.insert key value, field = (key, value) ∨ field ∈ fields := by
  induction fields with
  | nil => simp [Fields.insert]
  | cons first rest ih =>
    obtain ⟨k, v⟩ := first
    intro field hfield
    unfold Fields.insert at hfield
    split_ifs at hfield with hlt heq
    · exact List.mem_cons.mp hfield
    · rcases List.mem_cons.mp hfield with hnew | hold
      · exact Or.inl hnew
      · exact Or.inr (List.mem_cons_of_mem _ hold)
    · rcases List.mem_cons.mp hfield with rfl | hrest
      · exact Or.inr List.mem_cons_self
      · exact (ih field hrest).imp_right (List.mem_cons_of_mem _)

lemma tidyFields_insert (key : String) (value : Json) (fields : Fields) (h : TidyFields fields)
    (hvalue : Tidy value) : TidyFields (fields.insert key value) := by
  obtain ⟨hkeys, hvalues⟩ := h
  constructor
  · clear hvalues
    induction fields with
    | nil => simp [Fields.insert]
    | cons first rest ih =>
      obtain ⟨k, v⟩ := first
      obtain ⟨hfirst, hrest⟩ := List.pairwise_cons.mp hkeys
      unfold Fields.insert
      split_ifs with hlt heq
      · refine List.pairwise_cons.mpr ⟨fun field hfield => ?_, hkeys⟩
        rcases List.mem_cons.mp hfield with rfl | hmem
        · exact hlt
        · exact hlt.trans (hfirst field hmem)
      · subst heq
        exact List.pairwise_cons.mpr ⟨hfirst, hrest⟩
      · refine List.pairwise_cons.mpr ⟨fun field hfield => ?_, ih hrest⟩
        rcases mem_insert key value rest field hfield with rfl | hmem
        · exact lt_of_le_of_ne (not_lt.mp hlt) (Ne.symm heq)
        · exact hfirst field hmem
  · intro field hfield
    rcases mem_insert key value fields field hfield with rfl | hmem
    · exact hvalue
    · exact hvalues field hmem

lemma tidyFields_insertAll (fields : Fields) (more : List (String × Json)) (h : TidyFields fields)
    (hmore : ∀ field ∈ more, Tidy field.2) : TidyFields (fields.insertAll more) := by
  induction more generalizing fields with
  | nil => exact h
  | cons field more ih =>
    obtain ⟨hfield, hrest⟩ := List.forall_mem_cons.mp hmore
    exact ih (fields.insert field.1 field.2) (tidyFields_insert _ _ fields h hfield) hrest

lemma tidyFields_nil : TidyFields [] :=
  ⟨.nil, by simp⟩

lemma tidyFields_ofList (fields : List (String × Json)) (h : ∀ field ∈ fields, Tidy field.2) :
    TidyFields (Fields.ofList fields) :=
  tidyFields_insertAll [] fields tidyFields_nil h

lemma tidy_object (fields : List (String × Json)) (h : ∀ field ∈ fields, Tidy field.2) :
    Tidy (.object fields) :=
  (tidy_obj_iff _).mpr (tidyFields_ofList fields h)

lemma tidyFields_erase (fields : Fields) (key : String) (h : TidyFields fields) :
    TidyFields (fields.erase key) :=
  ⟨h.1.filter _, fun field hfield => h.2 field (List.mem_of_mem_filter hfield)⟩

@[simp] lemma tidy_strings (items : List String) : Tidy (.strings items) := by
  refine .arr _ fun item hitem => ?_
  obtain ⟨s, _, rfl⟩ := List.mem_map.mp hitem
  exact .str s

@[simp] lemma tidy_ofOption (s : Option String) : Tidy (.ofOption s) := by
  cases s with
  | none => exact .null
  | some s => exact .str s

lemma get?_insert (key other : String) (value : Json) (fields : Fields) :
    (fields.insert key value).get? other =
      if other = key then some value else fields.get? other := by
  have hcons : ∀ (k : String) (v : Json) (rest : Fields),
      Fields.get? ((k, v) :: rest) other = if other = k then some v else rest.get? other := by
    intro k v rest
    unfold Fields.get?
    by_cases hk : other = k
    · simp [hk]
    · rw [List.lookup_cons, beq_eq_false_iff_ne.mpr hk, if_neg hk]
  induction fields with
  | nil => exact hcons key value []
  | cons first rest ih =>
    obtain ⟨k, v⟩ := first
    unfold Fields.insert
    by_cases hlt : key < k
    · rw [if_pos hlt, hcons]
    by_cases heq : key = k
    · rw [if_neg hlt, if_pos heq, hcons, hcons, heq]
      split_ifs <;> rfl
    · rw [if_neg hlt, if_neg heq, hcons, hcons, ih]
      by_cases hother : other = k
      · rw [if_pos hother, if_neg (fun h => heq (h.symm.trans hother)), if_pos hother]
      · rw [if_neg hother, if_neg hother]

lemma get?_insertAll_of_notMem (fields : Fields) (more : List (String × Json)) (key : String)
    (h : ∀ field ∈ more, field.1 ≠ key) : (fields.insertAll more).get? key = fields.get? key := by
  induction more generalizing fields with
  | nil => rfl
  | cons field more ih =>
    obtain ⟨hfield, hmore⟩ := List.forall_mem_cons.mp h
    exact (ih _ hmore).trans ((get?_insert _ _ _ _).trans (if_neg hfield.symm))

lemma get?_ofList_of_notMem (fields : List (String × Json)) (key : String)
    (h : ∀ field ∈ fields, field.1 ≠ key) : (Fields.ofList fields).get? key = none :=
  get?_insertAll_of_notMem [] fields key h

lemma get?_ofList_append (fields : List (String × Json)) (key : String) (value : Json) :
    (Fields.ofList (fields ++ [(key, value)])).get? key = some value := by
  unfold Fields.ofList Fields.insertAll
  rw [List.foldl_append]
  exact (get?_insert _ _ _ _).trans (if_pos rfl)

/-- A key that is set to one value only has this value, however often it is set. -/
lemma get?_insertAll_of_mem (fields : Fields) (more : List (String × Json)) (key : String)
    (value : Json) (hmem : (key, value) ∈ more)
    (h : ∀ field ∈ more, field.1 = key → field.2 = value) :
    (fields.insertAll more).get? key = some value := by
  induction more generalizing fields with
  | nil => cases hmem
  | cons field more ih =>
    obtain ⟨hfield, hmore⟩ := List.forall_mem_cons.mp h
    by_cases hlater : (key, value) ∈ more
    · exact ih _ hlater hmore
    · have hlast : ∀ other ∈ more, other.1 ≠ key := fun other hother hkey =>
        hlater ((Prod.ext hkey (hmore other hother hkey) : other = (key, value)) ▸ hother)
      obtain rfl := (List.mem_cons.mp hmem).resolve_right hlater
      exact (get?_insertAll_of_notMem _ more key hlast).trans
        ((get?_insert _ _ _ _).trans (if_pos rfl))

/-- The fields of an object are those that are found by their keys. -/
lemma mem_iff_get?_eq_some {fields : Fields} (h : fields.Pairwise fun a b => a.1 < b.1)
    (key : String) (value : Json) : (key, value) ∈ fields ↔ fields.get? key = some value := by
  rw [Fields.get?, List.lookup_eq_some_iff]
  constructor
  · intro hmem
    obtain ⟨front, rest, rfl⟩ := List.append_of_mem hmem
    refine ⟨front, rest, rfl, fun field hfield => ?_⟩
    have hlt := (List.pairwise_append.mp h).2.2 field hfield (key, value) List.mem_cons_self
    exact bne_iff_ne.mpr hlt.ne'
  · rintro ⟨front, rest, rfl, _⟩
    exact List.mem_append_right _ List.mem_cons_self

lemma get?_erase (fields : Fields) (key : String) : (fields.erase key).get? key = none := by
  unfold Fields.get? Fields.erase
  rw [List.lookup_eq_none_iff]
  intro field hfield
  obtain ⟨_, hne⟩ := List.mem_filter.mp hfield
  rwa [bne_comm]

lemma get?_erase_of_ne (fields : Fields) (key other : String) (h : other ≠ key) :
    (fields.erase key).get? other = fields.get? other := by
  unfold Fields.get? Fields.erase
  induction fields with
  | nil => rfl
  | cons field fields ih =>
    obtain ⟨k, v⟩ := field
    by_cases hk : k = key
    · have hne : (other == k) = false := beq_eq_false_iff_ne.mpr (hk ▸ h)
      rw [List.filter_cons_of_neg (by simp [hk]), ih, List.lookup_cons, hne]
    · rw [List.filter_cons_of_pos (by simpa using hk), List.lookup_cons, List.lookup_cons, ih]

lemma ofList_reverse_cons (field : String × Json) (fields : List (String × Json)) :
    Fields.ofList (field :: fields).reverse =
      (Fields.ofList fields.reverse).insert field.1 field.2 := by
  rw [List.reverse_cons]
  exact List.foldl_append

/-- Fields that stand in order already are found again when they are set from the last to the first.
-/
lemma ofList_reverse_of_pairwise {fields : Fields} (h : fields.Pairwise fun a b => a.1 < b.1) :
    Fields.ofList fields.reverse = fields := by
  induction fields with
  | nil => rfl
  | cons field fields ih =>
    obtain ⟨hfield, hfields⟩ := List.pairwise_cons.mp h
    rw [ofList_reverse_cons, ih hfields]
    cases fields with
    | nil => rfl
    | cons second fields => exact if_pos (hfield second List.mem_cons_self)

/-! ### Values as they are spelled -/

mutual

/-- Whatever the order of the fields in a text, the value that it spells has them in order. -/
theorem tidy_toJson? (raw : RawJson) (v : Json) (h : raw.toJson? = some v) : Tidy v := by
  cases raw with
  | null => exact Option.some.inj h ▸ .null
  | bool b => exact Option.some.inj h ▸ .bool b
  | int i => exact Option.some.inj h ▸ .int i
  | float x => exact Option.some.inj h ▸ .float x
  | str points =>
    obtain ⟨s, _, rfl⟩ := Option.map_eq_some_iff.mp h
    exact .str s
  | arr items =>
    obtain ⟨values, hvalues, rfl⟩ := Option.map_eq_some_iff.mp h
    exact .arr values (tidy_itemsToJson? items values hvalues)
  | obj fields =>
    obtain ⟨values, hvalues, rfl⟩ := Option.map_eq_some_iff.mp h
    exact tidy_object values.reverse fun field hfield =>
      tidy_fieldsToJson? fields values hvalues field (List.mem_reverse.mp hfield)

theorem tidy_itemsToJson? (items : List RawJson) (values : List Json)
    (h : RawJson.itemsToJson? items = some values) : ∀ value ∈ values, Tidy value := by
  cases items with
  | nil =>
    obtain rfl := Option.some.inj h
    simp
  | cons item items =>
    unfold RawJson.itemsToJson? at h
    split at h
    · next value others hvalue hothers =>
      obtain rfl := Option.some.inj h
      exact List.forall_mem_cons.mpr ⟨tidy_toJson? item value hvalue,
        tidy_itemsToJson? items others hothers⟩
    · cases h

theorem tidy_fieldsToJson? (fields : List (Points × RawJson)) (values : List (String × Json))
    (h : RawJson.fieldsToJson? fields = some values) : ∀ field ∈ values, Tidy field.2 := by
  cases fields with
  | nil =>
    obtain rfl := Option.some.inj h
    simp
  | cons field fields =>
    obtain ⟨key, value⟩ := field
    unfold RawJson.fieldsToJson? at h
    split at h
    · next name found others _ hfound hothers =>
      obtain rfl := Option.some.inj h
      exact List.forall_mem_cons.mpr ⟨tidy_toJson? value found hfound,
        tidy_fieldsToJson? fields others hothers⟩
    · cases h

end

lemma text?_ofText (s : String) : (Points.ofText s).text? = some s := by
  have hchars : ∀ cs : List Char, (cs.map Char.toNat).mapM Points.char? = some cs := by
    intro cs
    induction cs with
    | nil => rfl
    | cons c cs ih =>
      have hc : Points.char? c.toNat = some c := by
        rw [Points.char?, if_pos (show c.toNat.isValidChar from c.valid), Char.ofNat_toNat]
      rw [List.map_cons, List.mapM_cons, hc, ih]
      rfl
  rw [Points.text?, Points.ofText, hchars, Option.map_some, String.ofList_toList]

lemma text?_eq_some_iff {points : Points} {s : String} :
    points.text? = some s ↔ points = Points.ofText s := by
  have hpoints : ∀ (points : Points) (cs : List Char), points.mapM Points.char? = some cs →
      points = cs.map Char.toNat := by
    intro points
    induction points with
    | nil =>
      rintro cs h
      obtain rfl := Option.some.inj h
      rfl
    | cons point points ih =>
      intro cs h
      rw [List.mapM_cons] at h
      obtain ⟨c, hc, h⟩ := Option.bind_eq_some_iff.mp h
      obtain ⟨rest, hrest, h⟩ := Option.bind_eq_some_iff.mp h
      obtain rfl := Option.some.inj h
      unfold Points.char? at hc
      split_ifs at hc with hvalid
      obtain rfl := Option.some.inj hc
      have hpoint : (Char.ofNat point).toNat = point := by
        rw [Char.ofNat, dif_pos hvalid]
        rfl
      rw [List.map_cons, hpoint, ← ih rest hrest]
  constructor
  · intro h
    obtain ⟨cs, hcs, rfl⟩ := Option.map_eq_some_iff.mp h
    rw [Points.ofText, String.toList_ofList]
    exact hpoints points cs hcs
  · rintro rfl
    exact text?_ofText s

lemma ofText_injective : Function.Injective Points.ofText := by
  intro s t hsame
  have htext := text?_ofText s
  rw [hsame, text?_ofText] at htext
  exact (Option.some.inj htext).symm

lemma itemsToJson?_rawItems (items : List Json)
    (h : ∀ item ∈ items, item.raw.toJson? = some item) :
    RawJson.itemsToJson? (Json.rawItems items) = some items := by
  induction items with
  | nil => rfl
  | cons item items ih =>
    obtain ⟨hitem, hothers⟩ := List.forall_mem_cons.mp h
    rw [Json.rawItems, RawJson.itemsToJson?, hitem, ih hothers]

lemma fieldsToJson?_rawFields (fields : List (String × Json))
    (h : ∀ field ∈ fields, field.2.raw.toJson? = some field.2) :
    RawJson.fieldsToJson? (Json.rawFields fields) = some fields := by
  induction fields with
  | nil => rfl
  | cons field fields ih =>
    obtain ⟨hfield, hothers⟩ := List.forall_mem_cons.mp h
    rw [Json.rawFields, RawJson.fieldsToJson?, text?_ofText, hfield, ih hothers]

/-- A value with its fields in order is the one that it spells. -/
lemma toJson?_raw {v : Json} (h : Tidy v) : v.raw.toJson? = some v := by
  induction h with
  | null | bool | int | float => rfl
  | str s => rw [Json.raw, RawJson.toJson?, text?_ofText, Option.map_some]
  | arr items _ ih =>
    rw [Json.raw, RawJson.toJson?, itemsToJson?_rawItems items ih, Option.map_some]
  | obj fields hkeys _ ih =>
    have hordered : Json.object fields.reverse = .obj fields :=
      congrArg Json.obj (ofList_reverse_of_pairwise hkeys)
    rw [Json.raw, RawJson.toJson?, fieldsToJson?_rawFields fields ih, Option.map_some, hordered]

/-- A key of an object that is spelled is found in the value of the object. -/
lemma rel_get?_fieldsToJson? {fields : RawFields} {found : List (String × Json)}
    (h : RawJson.fieldsToJson? fields = some found) (key : String) :
    Option.Rel (fun spelled value => RawJson.toJson? spelled = some value) (fields.get? key)
      ((Fields.ofList found.reverse).get? key) := by
  induction fields generalizing found with
  | nil =>
    obtain rfl := Option.some.inj h
    exact .none
  | cons field fields ih =>
    obtain ⟨points, spelled⟩ := field
    unfold RawJson.fieldsToJson? at h
    split at h
    · next name value others hname hvalue hothers =>
      obtain rfl := Option.some.inj h
      obtain rfl := text?_eq_some_iff.mp hname
      rw [ofList_reverse_cons, get?_insert, RawFields.get?, List.lookup_cons]
      by_cases hkey : key = name
      · rw [if_pos hkey, hkey, beq_self_eq_true]
        exact .some hvalue
      · rw [if_neg hkey, beq_eq_false_iff_ne.mpr (ofText_injective.ne hkey)]
        exact ih hothers
    · cases h

end StoryAtlas.Proofs
