import StoryAtlas.Proofs.FloatTexts
import StoryAtlas.Proofs.TidyJson

/-!
# Texts of JSON values

A value whose objects have their keys in increasing order is written on one line of printable ASCII.
Within bounds that the value fits, and there are such bounds, the line reads back as the value, up
to the floating-point values in it.
-/

namespace StoryAtlas.Proofs
open StoryAtlas.Text StoryAtlas.Number

/-! ### Floating-point values aside -/

mutual

/-- The value with every floating-point value made the same. -/
def withoutFloats : Json → Json
  | .null => .null
  | .bool b => .bool b
  | .int i => .int i
  | .float _ => .float .nan
  | .str s => .str s
  | .arr items => .arr (itemsWithoutFloats items)
  | .obj fields => .obj (fieldsWithoutFloats fields)

def itemsWithoutFloats : List Json → List Json
  | [] => []
  | item :: items => withoutFloats item :: itemsWithoutFloats items

def fieldsWithoutFloats : List (String × Json) → List (String × Json)
  | [] => []
  | (key, value) :: fields => (key, withoutFloats value) :: fieldsWithoutFloats fields

end

lemma itemsWithoutFloats_eq_map (items : List Json) :
    itemsWithoutFloats items = items.map withoutFloats := by
  induction items with
  | nil => rfl
  | cons item items ih => rw [itemsWithoutFloats, ih, List.map_cons]

lemma fieldsWithoutFloats_eq_map (fields : List (String × Json)) :
    fieldsWithoutFloats fields = fields.map fun field => (field.1, withoutFloats field.2) := by
  induction fields with
  | nil => rfl
  | cons field fields ih => rw [fieldsWithoutFloats, ih, List.map_cons]

lemma keys_fieldsWithoutFloats (fields : List (String × Json)) :
    (fieldsWithoutFloats fields).map Prod.fst = fields.map Prod.fst := by
  rw [fieldsWithoutFloats_eq_map, List.map_map]
  rfl

/-- Other floating-point values do not change the order of the fields. -/
lemma tidy_of_withoutFloats {v : Json} (h : Tidy v) (found : Json)
    (hsame : withoutFloats found = withoutFloats v) : Tidy found := by
  induction h generalizing found with
  | null | bool | int | float | str => cases found <;> simp_all [withoutFloats]
  | arr items _ ih =>
    cases found with
    | arr others =>
      simp only [withoutFloats, Json.arr.injEq, itemsWithoutFloats_eq_map] at hsame
      refine .arr others fun other hother => ?_
      have hmem : withoutFloats other ∈ items.map withoutFloats :=
        hsame ▸ List.mem_map_of_mem hother
      obtain ⟨item, hitem, heq⟩ := List.mem_map.mp hmem
      exact ih item hitem other heq.symm
    | _ => simp [withoutFloats] at hsame
  | obj fields hkeys _ ih =>
    cases found with
    | obj others =>
      simp only [withoutFloats, Json.obj.injEq] at hsame
      have hnames : others.map Prod.fst = fields.map Prod.fst := by
        rw [← keys_fieldsWithoutFloats, hsame, keys_fieldsWithoutFloats]
      refine .obj others ?_ fun other hother => ?_
      · rw [← List.pairwise_map] at hkeys ⊢
        rwa [hnames]
      · rw [fieldsWithoutFloats_eq_map, fieldsWithoutFloats_eq_map] at hsame
        have hmem : (other.1, withoutFloats other.2) ∈
            fields.map fun field => (field.1, withoutFloats field.2) :=
          hsame ▸ List.mem_map_of_mem hother
        obtain ⟨field, hfield, heq⟩ := List.mem_map.mp hmem
        exact ih field hfield other.2 (Prod.mk.inj heq).2.symm
    | _ => simp [withoutFloats] at hsame

/-! ### Reading what is written -/

/-- The characters that a word or a number begins with. -/
def StartsScalar (c : Char) : Prop :=
  c.isAlpha = true ∨ c.isDigit = true ∨ c = '-'

lemma isGap_startsScalar {c : Char} (h : StartsScalar c) : Json.isGap c = false := by
  by_contra hgap
  simp only [Json.isGap, Bool.not_eq_false, Bool.or_eq_true, beq_iff_eq] at hgap
  rcases hgap with ((rfl | rfl) | rfl) | rfl <;> revert h <;> unfold StartsScalar <;> decide

lemma readValue_scalar (digits fuel depth : Nat) (c : Char) (rest : List Char)
    (h : StartsScalar c) :
    Json.readValue digits (fuel + 1) depth (c :: rest) = Json.readScalar digits (c :: rest) := by
  have hc : c ≠ '"' ∧ c ≠ '[' ∧ c ≠ '{' := by
    refine ⟨?_, ?_, ?_⟩ <;> rintro rfl <;> revert h <;> unfold StartsScalar <;> decide
  unfold Json.readValue
  split
  · next heq => exact absurd (List.cons.inj heq).1 hc.1
  · next heq => exact absurd (List.cons.inj heq).1 hc.2.1
  · next heq => exact absurd (List.cons.inj heq).1 hc.2.2
  · rfl

lemma writeInt_cons (i : Int) : ∃ c rest, Json.writeInt i = c :: rest ∧ StartsScalar c := by
  obtain ⟨c, cs, hdigits⟩ := List.exists_cons_of_ne_nil (isDigits_toDigits i.natAbs).1
  have hc : c.isDigit = true := (isDigits_toDigits i.natAbs).2 c (by simp [hdigits])
  unfold Json.writeInt
  split_ifs
  · exact ⟨'-', _, rfl, Or.inr (Or.inr rfl)⟩
  · exact ⟨c, cs, by simp [hdigits], Or.inr (Or.inl hc)⟩

lemma float_cons (x : Binary64) :
    ∃ c rest, x.text Json.floatWords = c :: rest ∧ StartsScalar c := by
  cases x with
  | nan => exact ⟨'N', _, rfl, Or.inl (by decide)⟩
  | infinity negative =>
    cases negative
    · exact ⟨'I', _, rfl, Or.inl (by decide)⟩
    · exact ⟨'-', _, rfl, Or.inr (Or.inr rfl)⟩
  | finite negative mantissa exponent =>
    obtain ⟨c, cs, hcons, hc⟩ := floatText_cons _ (floatText_finite mantissa exponent)
    unfold Binary64.text
    dsimp only
    cases negative
    · exact ⟨c, cs, by rw [hcons]; rfl, Or.inr (Or.inl hc)⟩
    · exact ⟨'-', _, rfl, Or.inr (Or.inr rfl)⟩

/-- No value begins with a blank or with a closing bracket. -/
lemma write_cons (v : Json) :
    ∃ c rest, v.write = c :: rest ∧ Json.isGap c = false ∧ c ≠ ']' := by
  have hscalar : ∀ c, StartsScalar c → Json.isGap c = false ∧ c ≠ ']' := by
    intro c h
    refine ⟨isGap_startsScalar h, ?_⟩
    rintro rfl
    revert h
    unfold StartsScalar
    decide
  cases v with
  | null => exact ⟨'n', _, rfl, by decide⟩
  | bool b => cases b <;> exact ⟨_, _, rfl, by decide⟩
  | int i =>
    obtain ⟨c, rest, hcons, hc⟩ := writeInt_cons i
    exact ⟨c, rest, hcons, hscalar c hc⟩
  | float x =>
    obtain ⟨c, rest, hcons, hc⟩ := float_cons x
    exact ⟨c, rest, hcons, hscalar c hc⟩
  | str s => exact ⟨'"', _, rfl, by decide⟩
  | arr items => exact ⟨'[', _, rfl, by decide⟩
  | obj fields => exact ⟨'{', _, rfl, by decide⟩

lemma skipGap_cons {c : Char} (rest : List Char) (h : Json.isGap c = false) :
    Json.skipGap (c :: rest) = c :: rest := by
  simp [Json.skipGap, h]

lemma skipGap_space (rest : List Char) : Json.skipGap (' ' :: rest) = Json.skipGap rest := by
  simp [Json.skipGap, Json.isGap]

lemma skipGap_write (v : Json) (rest : List Char) :
    Json.skipGap (v.write ++ rest) = v.write ++ rest := by
  obtain ⟨c, cs, hcons, hc, _⟩ := write_cons v
  rw [hcons, List.cons_append, skipGap_cons _ hc]

/-- The value is within the bounds. -/
structure WithinBounds (bounds : Json.Bounds) (v : Json) : Prop where
  width : v.width ≤ bounds.digits
  depth : v.depth ≤ bounds.depth

/-- What is written for the value reads back within bounds that it fits, with other floating-point
values perhaps. -/
def ReadsBack (v : Json) : Prop :=
  ∀ digits fuel depth rest, v.width ≤ digits → v.depth ≤ depth → v.write.length ≤ fuel →
    Ends rest → ∃ found,
      Json.readValue digits fuel depth (v.write ++ rest) = .ok (Json.raw found, rest) ∧
        withoutFloats found = withoutFloats v

/-- A text that is read without regard to the fuel is read by one step. -/
lemma readsBack_of_scalar (v : Json) (hcons : ∃ c rest, v.write = c :: rest ∧ StartsScalar c)
    (hread : ∃ found,
      (∀ digits rest, v.width ≤ digits → Ends rest →
        Json.readScalar digits (v.write ++ rest) = .ok (Json.raw found, rest)) ∧
      withoutFloats found = withoutFloats v) : ReadsBack v := by
  obtain ⟨c, cs, hcons, hc⟩ := hcons
  obtain ⟨found, hread, hfound⟩ := hread
  intro digits fuel depth rest hwidth _ hfuel hrest
  refine ⟨found, ?_, hfound⟩
  rw [← hread digits rest hwidth hrest]
  rw [hcons] at hfuel ⊢
  cases fuel with
  | zero => simp at hfuel
  | succ fuel => exact readValue_scalar digits fuel depth c _ hc

lemma readsBack_str (s : String) : ReadsBack (.str s) := by
  intro digits fuel depth rest _ _ hfuel hrest
  refine ⟨.str s, ?_, rfl⟩
  have hlength := length_writeString s
  simp only [Json.write] at hfuel ⊢
  cases fuel with
  | zero => omega
  | succ fuel =>
    obtain ⟨body, hbody, hread⟩ := readChars?_writeString s fuel rest hfuel
    rw [hbody, Json.readValue, hread]
    rfl

lemma readItems_writeItems (items : List Json) (hitems : ∀ item ∈ items, ReadsBack item)
    (hne : items ≠ []) (digits fuel depth : Nat) (rest : List Char)
    (hwidth : Json.itemsWidth items ≤ digits) (hdepth : Json.itemsDepth items ≤ depth)
    (hfuel : (Json.writeItems items).length < fuel) : ∃ found,
      Json.readItems digits fuel depth (Json.writeItems items ++ ']' :: rest) =
          .ok (Json.rawItems found, rest) ∧
        itemsWithoutFloats found = itemsWithoutFloats items := by
  induction items generalizing fuel with
  | nil => exact absurd rfl hne
  | cons item items ih =>
    obtain ⟨hitem, hothers⟩ := List.forall_mem_cons.mp hitems
    obtain ⟨hitemWidth, hothersWidth⟩ := max_le_iff.mp hwidth
    obtain ⟨hitemDepth, hothersDepth⟩ := max_le_iff.mp hdepth
    cases fuel with
    | zero => omega
    | succ fuel =>
      cases items with
      | nil =>
        simp only [Json.writeItems] at hfuel ⊢
        obtain ⟨found, hread, hfound⟩ := hitem digits fuel depth (']' :: rest) hitemWidth
          hitemDepth (by omega) (ends_cons rest (by simp))
        refine ⟨[found], ?_, by simp [itemsWithoutFloats, hfound]⟩
        rw [Json.readItems, hread]
        rfl
      | cons next items =>
        have hwrite : Json.writeItems (item :: next :: items) =
            item.write ++ ',' :: ' ' :: Json.writeItems (next :: items) := rfl
        rw [hwrite, List.length_append, List.length_cons, List.length_cons] at hfuel
        rw [hwrite, List.append_assoc, List.cons_append, List.cons_append]
        obtain ⟨found, hread, hfound⟩ := hitem digits fuel depth
          (',' :: ' ' :: (Json.writeItems (next :: items) ++ ']' :: rest)) hitemWidth hitemDepth
          (by omega) (ends_cons _ (by simp))
        obtain ⟨others, hreadOthers, hfoundOthers⟩ := ih hothers (by simp) fuel hothersWidth
          hothersDepth (by omega)
        refine ⟨found :: others, ?_, by simp [itemsWithoutFloats, hfound, hfoundOthers]⟩
        have hskip : Json.skipGap (' ' :: (Json.writeItems (next :: items) ++ ']' :: rest)) =
            Json.writeItems (next :: items) ++ ']' :: rest := by
          rw [skipGap_space]
          cases items with
          | nil => exact skipGap_write next _
          | cons _ _ =>
            simp only [Json.writeItems, List.append_assoc]
            exact skipGap_write next _
        rw [Json.readItems, hread]
        simp only
        rw [skipGap_cons _ (by decide)]
        simp only
        rw [hskip, hreadOthers]
        rfl

/-- A key that is not there yet comes behind the others. -/
lemma put_of_notMem (key : Points) (value : RawJson) (fields : RawFields)
    (h : ∀ field ∈ fields, field.1 ≠ key) : fields.put key value = fields ++ [(key, value)] := by
  induction fields with
  | nil => rfl
  | cons field fields ih =>
    obtain ⟨hfield, hothers⟩ := List.forall_mem_cons.mp h
    rw [RawFields.put, if_neg hfield, ih hothers]
    rfl

lemma readFields_writeFields (fields : List (String × Json))
    (hvalues : ∀ field ∈ fields, ReadsBack field.2)
    (hkeys : fields.Pairwise fun a b => a.1 < b.1) (hne : fields ≠ [])
    (digits fuel depth : Nat) (before : RawFields) (rest : List Char)
    (hbefore : ∀ field ∈ before, ∀ other ∈ fields, field.1 ≠ Points.ofText other.1)
    (hwidth : Json.fieldsWidth fields ≤ digits) (hdepth : Json.fieldsDepth fields ≤ depth)
    (hfuel : (Json.writeFields fields).length < fuel) :
    ∃ found, Json.readFields digits fuel depth before (Json.writeFields fields ++ '}' :: rest) =
        .ok (.obj (before ++ Json.rawFields found), rest) ∧
      fieldsWithoutFloats found = fieldsWithoutFloats fields := by
  induction fields generalizing fuel before with
  | nil => exact absurd rfl hne
  | cons field fields ih =>
    obtain ⟨key, value⟩ := field
    obtain ⟨hfield, hothers⟩ := List.forall_mem_cons.mp hvalues
    have hvalue : ReadsBack value := hfield
    obtain ⟨hvalueWidth, hothersWidth⟩ := max_le_iff.mp hwidth
    obtain ⟨hvalueDepth, hothersDepth⟩ := max_le_iff.mp hdepth
    obtain ⟨hfirst, hordered⟩ := List.pairwise_cons.mp hkeys
    have hput (v : RawJson) :
        before.put (Points.ofText key) v = before ++ [(Points.ofText key, v)] :=
      put_of_notMem _ _ _ fun field hmem => hbefore field hmem _ List.mem_cons_self
    cases fuel with
    | zero => omega
    | succ fuel =>
      cases fields with
      | nil =>
        simp only [Json.writeFields, List.length_append, List.length_cons] at hfuel
        simp only [Json.writeFields, List.append_assoc, List.cons_append]
        obtain ⟨body, hbody, hkey⟩ := readChars?_writeString key fuel
          (':' :: ' ' :: (value.write ++ '}' :: rest)) (by omega)
        obtain ⟨found, hread, hfound⟩ := hvalue digits fuel depth ('}' :: rest) hvalueWidth
          hvalueDepth (by omega) (ends_cons rest (by simp))
        refine ⟨[(key, found)], ?_, by simp [fieldsWithoutFloats, hfound]⟩
        rw [hbody, Json.readFields, hkey]
        simp only
        rw [skipGap_cons _ (by decide)]
        simp only
        rw [skipGap_space, skipGap_write, hread]
        simp only
        rw [skipGap_cons _ (by decide)]
        simp only
        rw [hput]
        rfl
      | cons next fields =>
        have hwrite : Json.writeFields ((key, value) :: next :: fields) = Json.writeString key ++
            ':' :: ' ' :: value.write ++ ',' :: ' ' :: Json.writeFields (next :: fields) := rfl
        simp only [hwrite, List.length_append, List.length_cons] at hfuel
        simp only [hwrite, List.append_assoc, List.cons_append]
        obtain ⟨body, hbody, hkey⟩ := readChars?_writeString key fuel (':' :: ' ' :: (value.write ++
          ',' :: ' ' :: (Json.writeFields (next :: fields) ++ '}' :: rest))) (by omega)
        obtain ⟨found, hread, hfound⟩ := hvalue digits fuel depth
          (',' :: ' ' :: (Json.writeFields (next :: fields) ++ '}' :: rest)) hvalueWidth
          hvalueDepth (by omega) (ends_cons _ (by simp))
        have hafter : ∀ field ∈ before ++ [(Points.ofText key, found.raw)],
            ∀ other ∈ next :: fields, field.1 ≠ Points.ofText other.1 := by
          intro field hmem other hother
          rcases List.mem_append.mp hmem with hold | hnew
          · exact hbefore field hold other (List.mem_cons_of_mem _ hother)
          · obtain rfl := List.mem_singleton.mp hnew
            exact fun hsame => (hfirst other hother).ne (ofText_injective hsame)
        obtain ⟨others, hreadOthers, hfoundOthers⟩ := ih hothers hordered (by simp) fuel
          (before ++ [(Points.ofText key, found.raw)]) hafter hothersWidth hothersDepth (by omega)
        refine ⟨(key, found) :: others, ?_, by simp [fieldsWithoutFloats, hfound, hfoundOthers]⟩
        have hskip : Json.skipGap (' ' :: (Json.writeFields (next :: fields) ++ '}' :: rest)) =
            Json.writeFields (next :: fields) ++ '}' :: rest := by
          rw [skipGap_space]
          cases fields <;> exact skipGap_cons _ (by decide)
        rw [hbody, Json.readFields, hkey]
        simp only
        rw [skipGap_cons _ (by decide)]
        simp only
        rw [skipGap_space, skipGap_write, hread]
        simp only
        rw [skipGap_cons _ (by decide)]
        simp only
        rw [hskip, hput, hreadOthers, List.append_assoc]
        rfl

lemma readsBack_arr (items : List Json) (hitems : ∀ item ∈ items, ReadsBack item) :
    ReadsBack (.arr items) := by
  intro digits fuel depth rest hwidth hdepth hfuel _
  simp only [Json.write, List.cons_append, List.length_cons, List.length_append, List.length_nil,
    List.append_assoc, List.nil_append] at hfuel ⊢
  obtain ⟨depth, rfl⟩ := Nat.exists_eq_add_of_lt (Nat.lt_of_succ_le hdepth)
  cases fuel with
  | zero => omega
  | succ fuel =>
    cases items with
    | nil => exact ⟨.arr [], rfl, rfl⟩
    | cons item items =>
      obtain ⟨found, hread, hfound⟩ := readItems_writeItems (item :: items) hitems (by simp) digits
        fuel _ rest hwidth (Nat.le_add_right _ depth) (by omega)
      refine ⟨.arr found, ?_, by simp [withoutFloats, hfound]⟩
      obtain ⟨c, cs, hcons, hgap, hc⟩ := write_cons item
      obtain ⟨tail, htail⟩ :
          ∃ tail, Json.writeItems (item :: items) ++ ']' :: rest = c :: tail := by
        cases items <;> exact ⟨_, by simp only [Json.writeItems, hcons, List.cons_append]; rfl⟩
      rw [htail] at hread ⊢
      rw [Json.readValue, skipGap_cons tail hgap]
      split
      · next heq => exact absurd (List.cons.inj heq).1 hc
      · rw [hread]
        rfl

lemma readsBack_obj (fields : List (String × Json))
    (hkeys : fields.Pairwise fun a b => a.1 < b.1)
    (hvalues : ∀ field ∈ fields, ReadsBack field.2) : ReadsBack (.obj fields) := by
  intro digits fuel depth rest hwidth hdepth hfuel _
  simp only [Json.write, List.cons_append, List.length_cons, List.length_append, List.length_nil,
    List.append_assoc, List.nil_append] at hfuel ⊢
  obtain ⟨depth, rfl⟩ := Nat.exists_eq_add_of_lt (Nat.lt_of_succ_le hdepth)
  cases fuel with
  | zero => omega
  | succ fuel =>
    cases fields with
    | nil => exact ⟨.obj [], rfl, rfl⟩
    | cons field fields =>
      obtain ⟨found, hread, hfound⟩ := readFields_writeFields (field :: fields) hvalues hkeys
        (by simp) digits fuel _ [] rest (by simp) hwidth (Nat.le_add_right _ depth) (by omega)
      refine ⟨.obj found, ?_, by simp [withoutFloats, hfound]⟩
      obtain ⟨tail, htail⟩ : ∃ tail,
          Json.writeFields (field :: fields) ++ '}' :: rest = '"' :: tail := by
        cases fields <;> exact ⟨_, rfl⟩
      rw [htail] at hread ⊢
      rw [Json.readValue, skipGap_cons tail (by decide)]
      exact hread

lemma readsBack_of_tidy {v : Json} (h : Tidy v) : ReadsBack v := by
  induction h with
  | null =>
    exact readsBack_of_scalar _ ⟨'n', _, rfl, Or.inl (by decide)⟩
      ⟨.null, fun _ _ _ _ => rfl, rfl⟩
  | bool b =>
    refine readsBack_of_scalar _ ?_ ⟨.bool b, fun _ _ _ _ => by cases b <;> rfl, rfl⟩
    cases b <;> exact ⟨_, _, rfl, Or.inl (by decide)⟩
  | int i =>
    exact readsBack_of_scalar _ (writeInt_cons i)
      ⟨.int i, fun _ rest hwidth => readScalar_writeInt hwidth rest, rfl⟩
  | float x =>
    obtain ⟨y, hy⟩ := readScalar_float x
    exact readsBack_of_scalar _ (float_cons x) ⟨.float y, fun digits rest _ => hy digits rest, rfl⟩
  | str s => exact readsBack_str s
  | arr items _ ih => exact readsBack_arr items ih
  | obj fields hkeys _ ih => exact readsBack_obj fields hkeys ih

/-- The text of a value that fits the bounds spells a value which differs at most in floating-point
values. -/
lemma parseChars_write {bounds : Json.Bounds} {v : Json} (h : Tidy v)
    (hfits : WithinBounds bounds v) :
    ∃ found, Json.parseChars bounds v.write = .ok (Json.raw found) ∧
      withoutFloats found = withoutFloats v := by
  obtain ⟨found, hread, hfound⟩ := readsBack_of_tidy h bounds.digits
    (2 * (v.write.length + 1)) bounds.depth [] hfits.width hfits.depth (by omega) ends_nil
  refine ⟨found, ?_, hfound⟩
  have hskip := skipGap_write v []
  rw [List.append_nil] at hread hskip
  rw [Json.parseChars, hskip, hread]
  rfl

lemma parse_render {bounds : Json.Bounds} {v : Json} (h : Tidy v) (hfits : WithinBounds bounds v) :
    ∃ found, Json.parse bounds v.render = .ok found ∧ withoutFloats found = withoutFloats v := by
  obtain ⟨found, hread, hfound⟩ := parseChars_write h hfits
  refine ⟨found, ?_, hfound⟩
  rw [Json.parse, Json.render, String.toList_ofList, hread]
  simp only [toJson?_raw (tidy_of_withoutFloats h found hfound)]

/-! ### Without limits -/

lemma length_le_writeItems (item : Json) (items : List Json) :
    item.write.length ≤ (Json.writeItems (item :: items)).length ∧
      (Json.writeItems items).length ≤ (Json.writeItems (item :: items)).length := by
  cases items with
  | nil => simp [Json.writeItems]
  | cons next items =>
    simp only [Json.writeItems, List.length_append, List.length_cons]
    omega

lemma length_le_writeFields (key : String) (value : Json) (fields : List (String × Json)) :
    value.write.length ≤ (Json.writeFields ((key, value) :: fields)).length ∧
      (Json.writeFields fields).length ≤ (Json.writeFields ((key, value) :: fields)).length := by
  cases fields with
  | nil =>
    simp only [Json.writeFields, List.length_append, List.length_cons, List.length_nil]
    omega
  | cons next fields =>
    simp only [Json.writeFields, List.length_append, List.length_cons]
    omega

lemma items_le_length (items : List Json)
    (h : ∀ item ∈ items, item.width ≤ item.write.length ∧ item.depth ≤ item.write.length) :
    Json.itemsWidth items ≤ (Json.writeItems items).length ∧
      Json.itemsDepth items ≤ (Json.writeItems items).length := by
  induction items with
  | nil => exact ⟨Nat.zero_le _, Nat.zero_le _⟩
  | cons item items ih =>
    obtain ⟨⟨hwidth, hdepth⟩, hothers⟩ := List.forall_mem_cons.mp h
    obtain ⟨hwidths, hdepths⟩ := ih hothers
    obtain ⟨hitem, hitems⟩ := length_le_writeItems item items
    exact ⟨max_le (hwidth.trans hitem) (hwidths.trans hitems),
      max_le (hdepth.trans hitem) (hdepths.trans hitems)⟩

lemma fields_le_length (fields : List (String × Json))
    (h : ∀ field ∈ fields,
      field.2.width ≤ field.2.write.length ∧ field.2.depth ≤ field.2.write.length) :
    Json.fieldsWidth fields ≤ (Json.writeFields fields).length ∧
      Json.fieldsDepth fields ≤ (Json.writeFields fields).length := by
  induction fields with
  | nil => exact ⟨Nat.zero_le _, Nat.zero_le _⟩
  | cons field fields ih =>
    obtain ⟨key, value⟩ := field
    obtain ⟨⟨hwidth, hdepth⟩, hothers⟩ := List.forall_mem_cons.mp h
    obtain ⟨hwidths, hdepths⟩ := ih hothers
    obtain ⟨hvalue, hfields⟩ := length_le_writeFields key value fields
    exact ⟨max_le (hwidth.trans hvalue) (hwidths.trans hfields),
      max_le (hdepth.trans hvalue) (hdepths.trans hfields)⟩

lemma le_length_write {v : Json} (h : Tidy v) :
    v.width ≤ v.write.length ∧ v.depth ≤ v.write.length := by
  induction h with
  | null | bool | float | str => exact ⟨Nat.zero_le _, Nat.zero_le _⟩
  | int i =>
    refine ⟨?_, Nat.zero_le _⟩
    simp only [Json.width, Json.digitsOf, Json.write, Json.writeInt, List.length_append]
    omega
  | arr items _ ih =>
    obtain ⟨hwidth, hdepth⟩ := items_le_length items ih
    simp only [Json.width, Json.depth, Json.write, List.length_append, List.length_cons]
    omega
  | obj fields _ _ ih =>
    obtain ⟨hwidth, hdepth⟩ := fields_le_length fields ih
    simp only [Json.width, Json.depth, Json.write, List.length_append, List.length_cons]
    omega

/-- Whoever has no limits reads the text of a value as a value which differs at most in
floating-point values. -/
lemma decode?_render {v : Json} (h : Tidy v) :
    ∃ found, Json.decode? v.render = some found ∧ withoutFloats found = withoutFloats v := by
  have hlength : v.render.length = v.write.length := String.length_ofList
  obtain ⟨hwidth, hdepth⟩ := le_length_write h
  have hfits : WithinBounds ⟨v.render.length, v.render.length⟩ v :=
    ⟨hwidth.trans_eq hlength.symm, hdepth.trans_eq hlength.symm⟩
  obtain ⟨found, hread, hfound⟩ := parse_render h hfits
  refine ⟨found, ?_, hfound⟩
  rw [Json.decode?, hread]
  rfl

/-! ### Characters -/

lemma isPrintable_writeItems (items : List Json)
    (h : ∀ item ∈ items, ∀ c ∈ item.write, IsPrintable c) :
    ∀ c ∈ Json.writeItems items, IsPrintable c := by
  induction items with
  | nil => simp [Json.writeItems]
  | cons item items ih =>
    obtain ⟨hitem, hothers⟩ := List.forall_mem_cons.mp h
    cases items with
    | nil => exact hitem
    | cons next items =>
      exact List.forall_mem_append.mpr ⟨hitem, List.forall_mem_cons.mpr ⟨by decide,
        List.forall_mem_cons.mpr ⟨by decide, ih hothers⟩⟩⟩

lemma isPrintable_writeFields (fields : List (String × Json))
    (h : ∀ field ∈ fields, ∀ c ∈ field.2.write, IsPrintable c) :
    ∀ c ∈ Json.writeFields fields, IsPrintable c := by
  induction fields with
  | nil => simp [Json.writeFields]
  | cons field fields ih =>
    obtain ⟨key, value⟩ := field
    obtain ⟨hvalue, hothers⟩ := List.forall_mem_cons.mp h
    have hfield : ∀ c ∈ Json.writeString key ++ ':' :: ' ' :: value.write, IsPrintable c :=
      List.forall_mem_append.mpr ⟨isPrintable_writeString key, List.forall_mem_cons.mpr ⟨by decide,
        List.forall_mem_cons.mpr ⟨by decide, hvalue⟩⟩⟩
    cases fields with
    | nil => exact hfield
    | cons next fields =>
      exact List.forall_mem_append.mpr ⟨hfield, List.forall_mem_cons.mpr ⟨by decide,
        List.forall_mem_cons.mpr ⟨by decide, ih hothers⟩⟩⟩

lemma isPrintable_write {v : Json} (h : Tidy v) : ∀ c ∈ v.write, IsPrintable c := by
  induction h with
  | null => exact isPrintable_of_all rfl
  | bool b => cases b <;> exact isPrintable_of_all rfl
  | int i => exact isPrintable_writeInt i
  | float x => exact isPrintable_float x
  | str s => exact isPrintable_writeString s
  | arr items _ ih =>
    exact List.forall_mem_append.mpr ⟨List.forall_mem_cons.mpr ⟨by decide,
      isPrintable_writeItems items ih⟩, isPrintable_of_all rfl⟩
  | obj fields _ _ ih =>
    exact List.forall_mem_append.mpr ⟨List.forall_mem_cons.mpr ⟨by decide,
      isPrintable_writeFields fields ih⟩, isPrintable_of_all rfl⟩

end StoryAtlas.Proofs
