import Mathlib.Data.List.Nodup
import StoryAtlas.Log.Metadata
import StoryAtlas.Proofs.TidyJson

/-!
# What the log tells of arguments

The descriptions of all arguments share one object. A field that is derived from an argument is
named after it, with one of four endings behind the name, so no two arguments derive the same field.
But an argument of a request may itself have such a name, and if its value is one that is kept, the
log tells this value in place of the derived one.
-/

namespace StoryAtlas.Proofs

/-! ### Descriptions of one argument -/

/-- The value is told as it is, under its own name. -/
def isKept (key : String) : Json → Bool
  | .str _ => isKeptText key
  | .arr _ => false
  | .obj _ => false
  | _ => true

/-- What is derived from a value that is not kept, with the endings of the names. -/
def derivedParts : Json → List (String × Json)
  | .str s => [("_present", .bool true), ("_length", .int s.length)]
  | .arr items => [("_type", .str "list"), ("_length", .int items.length)]
  | .obj fields => [("_type", .str "dict"), ("_keys", .strings (fields.map Prod.fst))]
  | _ => []

/-- The endings of the names of derived fields. -/
def derivedEndings : List String :=
  ["_present", "_length", "_type", "_keys"]

lemma describeArgument_of_kept {key : String} {value : Json} (h : isKept key value = true) :
    describeArgument key value = [(key, value)] := by
  cases value with
  | str s => exact if_pos h
  | arr items => cases h
  | obj fields => cases h
  | null | bool | int | float => rfl

lemma describeArgument_of_not_kept {key : String} {value : Json} (h : isKept key value = false) :
    describeArgument key value =
      (derivedParts value).map fun part => (key ++ part.1, part.2) := by
  cases value with
  | str s => exact if_neg (Bool.eq_false_iff.mp h)
  | arr items => rfl
  | obj fields => rfl
  | null | bool | int | float => cases h

lemma ending_mem_of_mem_derivedParts {value : Json} {part : String × Json}
    (h : part ∈ derivedParts value) : part.1 ∈ derivedEndings := by
  revert part
  cases value <;> simp [derivedParts, derivedEndings]

/-- A value has one derived part with an ending. -/
lemma eq_of_mem_derivedParts {value : Json} {part other : String × Json}
    (hpart : part ∈ derivedParts value) (hother : other ∈ derivedParts value)
    (h : part.1 = other.1) : part = other := by
  have hdistinct : ((derivedParts value).map Prod.fst).Nodup := by
    cases value <;> simp [derivedParts]
  exact List.inj_on_of_nodup_map hdistinct hpart hother h

/-! ### Names -/

lemma self_le_append (key ending : String) : key ≤ key ++ ending := by
  refine not_lt.mp fun hlt => ?_
  rw [String.lt_iff_toList_lt, String.toList_append] at hlt
  exact List.le_append_left hlt

/-- The name of a derived field tells the argument and the ending, since no two endings have the
same last letter. -/
lemma eq_of_derived {key other ending ending' : String} (hending : ending ∈ derivedEndings)
    (hending' : ending' ∈ derivedEndings) (h : key ++ ending = other ++ ending') :
    key = other ∧ ending = ending' := by
  have hfound : ∀ ending ∈ derivedEndings, ending.toList ≠ [] := by decide
  have hlast : ∀ ending ∈ derivedEndings, ∀ ending' ∈ derivedEndings,
      ending.toList.getLast? = ending'.toList.getLast? → ending = ending' := by decide
  have hchars := congrArg String.toList h
  rw [String.toList_append, String.toList_append] at hchars
  have hletters := congrArg List.getLast? hchars
  rw [List.getLast?_append_of_ne_nil _ (hfound _ hending),
    List.getLast?_append_of_ne_nil _ (hfound _ hending')] at hletters
  obtain rfl := hlast _ hending _ hending' hletters
  exact ⟨String.toList_inj.mp (List.append_cancel_right hchars), rfl⟩

/-! ### All arguments together -/

/-- The value that the arguments themselves have under a name, if it is one that is kept. -/
def ownValue? (arguments : Fields) (name : String) : Option Json :=
  (arguments.get? name).filter (isKept name)

section Arguments

variable {arguments : Fields} (h : TidyFields arguments)

include h

/-- A value that is kept is told under its name, since all arguments from which fields of this name
could be derived come before it. -/
lemma get?_describeArguments_of_kept {key : String} {value : Json}
    (hvalue : arguments.get? key = some value) (hkept : isKept key value = true) :
    (describeArguments arguments).get? key = some value := by
  obtain ⟨front, rest, rfl⟩ :=
    List.append_of_mem ((mem_iff_get?_eq_some h.1 key value).mpr hvalue)
  have hlater : ∀ field ∈ rest.flatMap fun argument => describeArgument argument.1 argument.2,
      field.1 ≠ key := by
    intro field hfield
    obtain ⟨⟨other, found⟩, hmem, hfield⟩ := List.mem_flatMap.mp hfield
    have hbehind := List.pairwise_append.mp h.1
    have hlt : key < other := (List.pairwise_cons.mp hbehind.2.1).1 _ hmem
    refine (hlt.trans_le ?_).ne'
    cases hother : isKept other found with
    | true =>
      rw [describeArgument_of_kept hother, List.mem_singleton] at hfield
      rw [hfield]
    | false =>
      rw [describeArgument_of_not_kept hother] at hfield
      obtain ⟨part, _, rfl⟩ := List.mem_map.mp hfield
      exact self_le_append other part.1
  unfold describeArguments
  rw [List.flatMap_append, List.flatMap_cons, describeArgument_of_kept hkept, ← List.append_assoc,
    Fields.ofList, Fields.insertAll, List.foldl_append]
  exact (get?_insertAll_of_notMem _ _ key hlater).trans (get?_ofList_append _ key value)

/-- A part of a description is told under its name, unless the arguments have a value under this
name that is kept. -/
lemma get?_describeArguments_of_part {key : String} {value : Json}
    (hvalue : arguments.get? key = some value) (hkept : isKept key value = false)
    (part : String × Json) (hpart : part ∈ derivedParts value) :
    (describeArguments arguments).get? (key ++ part.1) =
      some ((ownValue? arguments (key ++ part.1)).getD part.2) := by
  cases hown : ownValue? arguments (key ++ part.1) with
  | some own =>
    obtain ⟨hfound, hown⟩ := Option.filter_eq_some_iff.mp hown
    exact get?_describeArguments_of_kept h hfound hown
  | none =>
    refine get?_insertAll_of_mem [] _ _ _ ?_ fun field hfield hname => ?_
    · refine List.mem_flatMap.mpr ⟨(key, value), (mem_iff_get?_eq_some h.1 key value).mpr hvalue, ?_⟩
      rw [describeArgument_of_not_kept hkept]
      exact List.mem_map_of_mem hpart
    · obtain ⟨⟨other, found⟩, hmem, hfield⟩ := List.mem_flatMap.mp hfield
      have hfound := (mem_iff_get?_eq_some h.1 other found).mp hmem
      cases hother : isKept other found with
      | true =>
        -- an argument of this name would be told as it is
        rw [describeArgument_of_kept hother, List.mem_singleton] at hfield
        rw [hfield] at hname
        rw [ownValue?, ← hname, hfound, Option.filter_some, if_pos hother] at hown
        cases hown
      | false =>
        rw [describeArgument_of_not_kept hother] at hfield
        obtain ⟨part', hpart', rfl⟩ := List.mem_map.mp hfield
        obtain ⟨rfl, hending⟩ := eq_of_derived (ending_mem_of_mem_derivedParts hpart')
          (ending_mem_of_mem_derivedParts hpart) hname
        obtain rfl := Option.some.inj (hfound.symm.trans hvalue)
        obtain rfl := eq_of_mem_derivedParts hpart' hpart hending
        rfl

end Arguments

/-- The log tells the value under the name, or what the arguments themselves have there if that is
kept. -/
def TellsDerived (arguments : Fields) (name : String) (value : Json) : Prop :=
  (describeArguments arguments).get? name = some ((ownValue? arguments name).getD value)

lemma sorted_keys {fields : Fields} (h : TidyFields fields) :
    (fields.map Prod.fst).Pairwise (· < ·) ∧
      ∀ key, key ∈ fields.map Prod.fst ↔ ∃ value, fields.get? key = some value := by
  refine ⟨List.pairwise_map.mpr h.1, fun key => ?_⟩
  simp only [← mem_iff_get?_eq_some h.1, List.mem_map, Prod.exists, exists_and_right, exists_eq_right]

/-- The log tells of a text that it is there and how long it is, of a list how long it is, and of an
object its keys in order, except under a name under which the arguments themselves have a number, a
truth value or null: then it tells that. Such values, and the texts that are kept, are told as they
are, under any name. -/
theorem arguments_described (arguments : Fields) (h : TidyFields arguments) (key : String) :
    (∀ s, arguments.get? key = some (.str s) → isKeptText key = false →
      TellsDerived arguments (key ++ "_present") (.bool true) ∧
        TellsDerived arguments (key ++ "_length") (.int s.length)) ∧
    (∀ items, arguments.get? key = some (.arr items) →
      TellsDerived arguments (key ++ "_type") (.str "list") ∧
        TellsDerived arguments (key ++ "_length") (.int items.length)) ∧
    (∀ fields : Fields, arguments.get? key = some (.obj fields) →
      TellsDerived arguments (key ++ "_type") (.str "dict") ∧
        ∃ keys : List String, keys.Pairwise (· < ·) ∧
          (∀ k, k ∈ keys ↔ ∃ value, fields.get? k = some value) ∧
          TellsDerived arguments (key ++ "_keys") (.strings keys)) ∧
    ∀ value, arguments.get? key = some value → isKept key value = true →
      (describeArguments arguments).get? key = some value := by
  refine ⟨fun s hs hkey => ?_, fun items hitems => ?_, fun fields hfields => ?_, fun value => ?_⟩
  · have hpart := get?_describeArguments_of_part h hs hkey
    exact ⟨hpart ("_present", _) (by simp [derivedParts]),
      hpart ("_length", _) (by simp [derivedParts])⟩
  · have hpart := get?_describeArguments_of_part h hitems rfl
    exact ⟨hpart ("_type", _) (by simp [derivedParts]),
      hpart ("_length", _) (by simp [derivedParts])⟩
  · have hpart := get?_describeArguments_of_part h hfields rfl
    have htidy := h.2 _ ((mem_iff_get?_eq_some h.1 key _).mpr hfields)
    obtain ⟨hsorted, hkeys⟩ := sorted_keys ((tidy_obj_iff fields).mp htidy)
    exact ⟨hpart ("_type", _) (by simp [derivedParts]), _, hsorted, hkeys,
      hpart ("_keys", _) (by simp [derivedParts, Json.strings])⟩
  · exact get?_describeArguments_of_kept h

/-- A text, and a number under the name for its length. -/
def namedAlike : Fields :=
  [("text", .str "ab"), ("text_length", .int 9)]

lemma tidyFields_namedAlike : TidyFields namedAlike := by
  constructor
  · decide
  · simp [namedAlike]

theorem arguments_described_named_alike : TidyFields namedAlike ∧
    namedAlike.get? "text" = some (.str "ab") ∧ isKeptText "text" = false ∧
    (describeArguments namedAlike).get? "text_present" = some (.bool true) ∧
    (describeArguments namedAlike).get? "text_length" = some (.int 9) := by
  obtain ⟨hpresent, hlength⟩ :=
    (arguments_described namedAlike tidyFields_namedAlike "text").1 "ab" rfl rfl
  exact ⟨tidyFields_namedAlike, rfl, rfl, hpresent, hlength⟩

/-- The length that the log tells of a text may be one that the client has made up. -/
theorem told_length_made_up : ¬∀ arguments : Fields, TidyFields arguments → ∀ key s,
    arguments.get? key = some (.str s) → isKeptText key = false →
      (describeArguments arguments).get? (key ++ "_length") = some (.int s.length) := by
  intro h
  have hlength := h namedAlike tidyFields_namedAlike "text" "ab" rfl rfl
  have htold : (describeArguments namedAlike).get? ("text" ++ "_length") = some (.int 9) :=
    get?_describeArguments_of_kept tidyFields_namedAlike rfl rfl
  rw [htold, Option.some.injEq, Json.int.injEq] at hlength
  exact absurd hlength (by decide)

end StoryAtlas.Proofs
