import StoryAtlas.Log.Journal
import StoryAtlas.Log.Record
import StoryAtlas.Proofs.ReadBounds
import StoryAtlas.Proofs.ReplyTexts
import StoryAtlas.Proofs.TrimmedTexts

/-!
# Lines of a journal

A journal is read line by line, whichever of the three line endings its lines have. Each line gives
the object that is on it or nothing, whatever the other lines are, up to the first line that is
refused. What is written for a record is one such line, and unless there are floating-point values
in the record, it gives back the same fields.
-/

namespace StoryAtlas.Proofs
open StoryAtlas.Journal

/-! ### Lines with their endings -/

/-- One of the three line endings, where no line feed follows a carriage return alone. -/
def IsLineEnd (ending rest : List Char) : Prop :=
  ending = ['\n'] ∨ ending = ['\r', '\n'] ∨ ending = ['\r'] ∧ rest.head? ≠ some '\n'

/-- The text is made of these lines, each with a line ending behind it. -/
inductive HasLines : List Char → List (List Char) → Prop
  | nil : HasLines [] []
  | cons {line ending rest : List Char} {lines : List (List Char)} (hfeed : '\n' ∉ line)
      (hreturn : '\r' ∉ line) (hending : IsLineEnd ending rest) (hrest : HasLines rest lines) :
      HasLines (line ++ (ending ++ rest)) (line :: lines)

/-- The text is empty, or its last line has a line ending. -/
def EndsLine (cs : List Char) : Prop :=
  ∀ c, cs.getLast? = some c → c = '\n' ∨ c = '\r'

lemma endsLine_of_append (front : List Char) {cs : List Char} (h : EndsLine (front ++ cs)) :
    EndsLine cs := by
  intro c hc
  apply h
  rw [List.getLast?_append, hc]
  rfl

/-- Every text whose last line has an ending is made of lines. -/
lemma exists_hasLines (cs : List Char) (h : EndsLine cs) : ∃ lines, HasLines cs lines := by
  induction cs using joinLineEnds.induct with
  | case1 => exact ⟨[], .nil⟩
  | case2 cs ih =>
    obtain ⟨lines, hlines⟩ := ih (endsLine_of_append ['\r', '\n'] h)
    exact ⟨[] :: lines, .cons List.not_mem_nil List.not_mem_nil (.inr (.inl rfl)) hlines⟩
  | case3 cs hnext ih =>
    obtain ⟨lines, hlines⟩ := ih (endsLine_of_append ['\r'] h)
    have hhead : cs.head? ≠ some '\n' := by
      cases cs with
      | nil => simp
      | cons c cs =>
        rintro hc
        obtain rfl := Option.some.inj hc
        exact hnext cs rfl
    exact ⟨[] :: lines, .cons List.not_mem_nil List.not_mem_nil (.inr (.inr ⟨rfl, hhead⟩)) hlines⟩
  | case4 c cs hboth hreturn ih =>
    obtain ⟨lines, hlines⟩ := ih (endsLine_of_append [c] h)
    by_cases hc : c = '\n'
    · subst hc
      exact ⟨[] :: lines, .cons List.not_mem_nil List.not_mem_nil (.inl rfl) hlines⟩
    · -- the character stands in the first line of the rest
      cases hlines with
      | nil => exact absurd (h c rfl) (by simpa [hc] using hreturn)
      | @cons line ending rest lines hfeed hline hending hrest =>
        have hfeed' : '\n' ∉ c :: line :=
          List.not_mem_cons_of_ne_of_not_mem (Ne.symm hc) hfeed
        have hline' : '\r' ∉ c :: line :=
          List.not_mem_cons_of_ne_of_not_mem (Ne.symm hreturn) hline
        exact ⟨(c :: line) :: lines, .cons hfeed' hline' hending hrest⟩

lemma hasLines_append {cs ds : List Char} {lines more : List (List Char)} (h : HasLines cs lines)
    (hmore : HasLines ds more) (hhead : ds.head? ≠ some '\n') :
    HasLines (cs ++ ds) (lines ++ more) := by
  induction h with
  | nil => exact hmore
  | @cons line ending rest lines hfeed hreturn hending _ ih =>
    rw [List.append_assoc, List.append_assoc]
    refine .cons hfeed hreturn ?_ ih
    refine hending.imp_right (Or.imp_right fun ⟨hback, hnext⟩ => ⟨hback, ?_⟩)
    cases rest with
    | nil => exact hhead
    | cons c rest => exact hnext

lemma joinLineEnds_line (line rest : List Char) (h : '\r' ∉ line) :
    joinLineEnds (line ++ rest) = line ++ joinLineEnds rest := by
  induction line with
  | nil => rfl
  | cons c line ih =>
    rw [List.mem_cons, not_or] at h
    rw [List.cons_append, joinLineEnds, ih h.2, List.cons_append]
    · exact fun _ hc _ => h.1 hc.symm
    · exact fun hc => h.1 hc.symm

lemma joinLineEnds_ending (ending rest : List Char) (h : IsLineEnd ending rest) :
    joinLineEnds (ending ++ rest) = '\n' :: joinLineEnds rest := by
  rcases h with rfl | rfl | ⟨rfl, hnext⟩
  · rfl
  · rfl
  · cases rest with
    | nil => rfl
    | cons c rest =>
      have hc : c ≠ '\n' := fun hc => hnext (congrArg some hc)
      rw [List.singleton_append, joinLineEnds]
      exact fun _ heq => hc (List.cons.inj heq).1

/-- Behind the last line ending there is nothing. -/
lemma split_of_hasLines {cs : List Char} {lines : List (List Char)} (h : HasLines cs lines) :
    Text.split '\n' (joinLineEnds cs) = lines ++ [[]] := by
  induction h with
  | nil => rfl
  | @cons line ending rest lines hfeed hreturn hending _ ih =>
    rw [joinLineEnds_line line _ hreturn, joinLineEnds_ending ending rest hending,
      Text.split_append, Text.split_of_notMem hfeed, List.singleton_append, ih, List.cons_append]

/-! ### Lines one by one -/

/-- The line is not refused. -/
def Legible (room : Nat) (line : List Char) : Prop :=
  ∃ found, recordOn room line = .ok found

/-- The object on a line that is not refused, if there is one. -/
def recordOn? (room : Nat) (line : List Char) : Option RawFields :=
  match recordOn room line with
  | .ok found => found
  | .error _ => none

lemma recordsOn_of_legible {room : Nat} {lines : List (List Char)}
    (h : ∀ line ∈ lines, Legible room line) :
    recordsOn room lines = .ok (lines.filterMap (recordOn? room)) := by
  induction lines with
  | nil => rfl
  | cons line lines ih =>
    obtain ⟨⟨found, hfound⟩, hlines⟩ := List.forall_mem_cons.mp h
    have hrecord : recordOn? room line = found := by rw [recordOn?, hfound]
    rw [recordsOn, hfound, ih hlines, List.filterMap_cons, hrecord]
    cases found <;> rfl

lemma recordsOn_of_refused {room : Nat} {front rest : List (List Char)} {line : List Char}
    {refusal : Json.Refusal} (hfront : ∀ line ∈ front, Legible room line)
    (hline : recordOn room line = .error refusal) :
    recordsOn room (front ++ line :: rest) = .error refusal := by
  induction front with
  | nil => rw [List.nil_append, recordsOn, hline]
  | cons first front ih =>
    obtain ⟨⟨found, hfound⟩, hothers⟩ := List.forall_mem_cons.mp hfront
    rw [List.cons_append, recordsOn, hfound, ih hothers]
    rfl

lemma recordOn_nil (room : Nat) : recordOn room [] = .ok none :=
  rfl

/-- Reading a text gives what is on each of its lines, if none is refused. -/
lemma records_of_hasLines {room : Nat} {text : String} {lines : List (List Char)}
    (h : HasLines text.toList lines) (hlegible : ∀ line ∈ lines, Legible room line) :
    records room text = .ok (lines.filterMap (recordOn? room)) := by
  have hall : ∀ line ∈ lines ++ [[]], Legible room line := by
    intro line hline
    rcases List.mem_append.mp hline with hmem | hlast
    · exact hlegible line hmem
    · obtain rfl := List.mem_singleton.mp hlast
      exact ⟨none, recordOn_nil room⟩
  have hlast : [[]].filterMap (recordOn? room) = [] := by simp [recordOn?, recordOn_nil]
  rw [records, split_of_hasLines h, recordsOn_of_legible hall, List.filterMap_append, hlast,
    List.append_nil]

/-- If a text is read, none of its lines is refused. -/
lemma legible_of_records {room : Nat} {text : String} {lines : List (List Char)}
    {found : List RawFields} (h : HasLines text.toList lines)
    (hfound : records room text = .ok found) : ∀ line ∈ lines, Legible room line := by
  rw [records, split_of_hasLines h] at hfound
  clear h
  induction lines generalizing found with
  | nil => simp
  | cons line lines ih =>
    rw [List.cons_append, recordsOn] at hfound
    split at hfound
    · cases hfound
    next first hfirst =>
    obtain ⟨others, hothers, -⟩ := map_eq_ok hfound
    exact List.forall_mem_cons.mpr ⟨⟨first, hfirst⟩, ih hothers⟩

/-- Reading a text stops at the first line that is refused. -/
lemma records_of_refused {room : Nat} {text : String} {front rest : List (List Char)}
    {line : List Char} {refusal : Json.Refusal} (h : HasLines text.toList (front ++ line :: rest))
    (hfront : ∀ line ∈ front, Legible room line) (hline : recordOn room line = .error refusal) :
    records room text = .error refusal := by
  rw [records, split_of_hasLines h, List.append_assoc, List.cons_append]
  exact recordsOn_of_refused hfront hline

lemma recordOn_replicate {room count : Nat} (h : room < count) :
    recordOn room (List.replicate count '[') = .error .tooDeep := by
  have htrim : Text.trimBlanks (List.replicate count '[') = List.replicate count '[' := by
    refine trimBlanks_of_isTrimmed ⟨fun c hc => ?_, fun c hc => ?_⟩
    · obtain rfl := List.eq_of_mem_replicate (List.mem_of_mem_head? hc)
      rfl
    · obtain rfl := List.eq_of_mem_replicate (List.mem_of_mem_getLast? hc)
      rfl
  unfold recordOn
  rw [htrim, parseChars_replicate h]

/-- A journal of one line with more brackets than there is room for is refused. -/
lemma records_replicate {room count : Nat} (h : room < count) :
    records room (String.ofList (List.replicate count '[') ++ "\n") = .error .tooDeep := by
  have hnone (c : Char) (hc : c ≠ '[') : c ∉ List.replicate count '[' := fun hmem =>
    hc (List.eq_of_mem_replicate hmem)
  have hlines : HasLines (String.ofList (List.replicate count '[') ++ "\n").toList
      ([] ++ [List.replicate count '[']) := by
    rw [String.toList_append, String.toList_ofList]
    exact .cons (hnone '\n' (by decide)) (hnone '\r' (by decide)) (.inl rfl) .nil
  exact records_of_refused hlines (by simp) (recordOn_replicate h)

/-! ### Values without floating-point numbers -/

/-- There is no floating-point value in the value. -/
inductive FloatFree : Json → Prop
  | null : FloatFree .null
  | bool (b : Bool) : FloatFree (.bool b)
  | int (i : Int) : FloatFree (.int i)
  | str (s : String) : FloatFree (.str s)
  | arr (items : List Json) (hitems : ∀ item ∈ items, FloatFree item) : FloatFree (.arr items)
  | obj (fields : List (String × Json)) (hvalues : ∀ field ∈ fields, FloatFree field.2) :
      FloatFree (.obj fields)

attribute [simp] FloatFree.null FloatFree.bool FloatFree.int FloatFree.str

@[simp] lemma floatFree_ofOption (s : Option String) : FloatFree (.ofOption s) := by
  cases s with
  | none => exact .null
  | some s => exact .str s

lemma floatFree_object (fields : List (String × Json)) (h : ∀ field ∈ fields, FloatFree field.2) :
    FloatFree (.object fields) := by
  have hinsert (more found : List (String × Json)) (hmore : ∀ field ∈ more, FloatFree field.2)
      (hfound : ∀ field ∈ found, FloatFree field.2) :
      ∀ field ∈ Fields.insertAll found more, FloatFree field.2 := by
    induction more generalizing found with
    | nil => exact hfound
    | cons first more ih =>
      obtain ⟨hfirst, hrest⟩ := List.forall_mem_cons.mp hmore
      refine ih (Fields.insert first.1 first.2 found) hrest fun field hfield => ?_
      rcases mem_insert first.1 first.2 found field hfield with rfl | hold
      · exact hfirst
      · exact hfound field hold
  exact .obj _ (hinsert fields [] h (by simp))

lemma eq_of_map_eq {α β : Type} {f : α → β} {xs : List α}
    (h : ∀ x ∈ xs, ∀ y, f y = f x → y = x) (ys : List α) (hsame : ys.map f = xs.map f) :
    ys = xs := by
  induction xs generalizing ys with
  | nil => exact List.map_eq_nil_iff.mp hsame
  | cons x xs ih =>
    obtain ⟨y, rest, rfl, hy, hrest⟩ := List.map_eq_cons_iff.mp hsame
    obtain ⟨hx, hxs⟩ := List.forall_mem_cons.mp h
    rw [hx y hy, ih hxs rest hrest]

lemma eq_of_withoutFloats {v : Json} (h : FloatFree v) (found : Json)
    (hsame : withoutFloats found = withoutFloats v) : found = v := by
  induction h generalizing found with
  | null | bool | int | str => cases found <;> simp_all [withoutFloats]
  | arr items _ ih =>
    cases found with
    | arr others =>
      simp only [withoutFloats, Json.arr.injEq, itemsWithoutFloats_eq_map] at hsame ⊢
      exact eq_of_map_eq ih others hsame
    | _ => simp [withoutFloats] at hsame
  | obj fields _ ih =>
    cases found with
    | obj others =>
      simp only [withoutFloats, Json.obj.injEq, fieldsWithoutFloats_eq_map] at hsame ⊢
      refine eq_of_map_eq (fun field hfield other hother => ?_) others hsame
      obtain ⟨hkey, hvalue⟩ := Prod.mk.inj hother
      exact Prod.ext hkey (ih field hfield other.2 hvalue)
    | _ => simp [withoutFloats] at hsame

/-! ### What is written for a record -/

/-- What is logged: a request with its outcome, or what happened to the index. -/
inductive LogEvent where
  | audit (record : AuditRecord)
  | index (record : IndexRecord)

namespace LogEvent

def toJson : LogEvent → Json
  | audit record => record.toJson
  | index record => record.toJson

/-- The fields of the record. -/
def fields (event : LogEvent) : Fields :=
  match event.toJson with
  | .obj fields => fields
  | _ => []

/-- The fields that tell more about the event. -/
def detail : LogEvent → Fields
  | audit record => record.metadata
  | index record => record.detail

end LogEvent

lemma toJson_logEvent (event : LogEvent) : event.toJson = .obj event.fields := by
  cases event <;> rfl

/-- What is said about the event has its keys in order and no floating-point values. -/
structure Loggable (event : LogEvent) : Prop where
  tidy : TidyFields event.detail
  floatFree : ∀ field ∈ event.detail, FloatFree field.2

lemma tidy_logEvent {event : LogEvent} (h : TidyFields event.detail) : Tidy event.toJson := by
  have hdetail := (tidy_obj_iff _).mpr h
  cases event with
  | audit record =>
    refine tidy_object _ ?_
    simpa [LogEvent.detail] using hdetail
  | index record =>
    refine tidy_object _ ?_
    simpa [LogEvent.detail] using hdetail

lemma floatFree_logEvent {event : LogEvent} (h : ∀ field ∈ event.detail, FloatFree field.2) :
    FloatFree event.toJson := by
  have hdetail : FloatFree (.obj event.detail) := .obj _ h
  cases event with
  | audit record =>
    refine floatFree_object _ ?_
    simpa [LogEvent.detail] using hdetail
  | index record =>
    refine floatFree_object _ ?_
    simpa [LogEvent.detail] using hdetail

/-- A record is two brackets deeper than what it tells, and no wider. -/
lemma withinBounds_logEvent {room : Nat} {event : LogEvent}
    (hwidth : Json.fieldsWidth event.detail ≤ Json.maxDigits)
    (hdepth : Json.fieldsDepth event.detail + 2 ≤ room) :
    WithinBounds (.within room) event.toJson := by
  have hofOption (s : Option String) :
      (Json.ofOption s).width = 0 ∧ (Json.ofOption s).depth = 0 := by
    cases s <;> exact ⟨rfl, rfl⟩
  have hwide : event.toJson.width ≤ Json.maxDigits := by
    cases event with
    | audit record =>
      exact width_object_le (by simpa [hofOption, Json.width, LogEvent.detail] using hwidth)
    | index record =>
      exact width_object_le (by simpa [hofOption, Json.width, LogEvent.detail] using hwidth)
  have hdeep : event.toJson.depth ≤ Json.fieldsDepth event.detail + 1 + 1 := by
    cases event with
    | audit record => exact depth_object_le (by simp [hofOption, Json.depth, LogEvent.detail])
    | index record => exact depth_object_le (by simp [hofOption, Json.depth, LogEvent.detail])
  exact ⟨hwide, hdeep.trans hdepth⟩

/-- The lines that are written for records. -/
def eventsText (events : List LogEvent) : String :=
  String.join (events.map fun event => event.toJson.render ++ "\n")

/-- A record without floating-point values that fits the bounds is read back as it was written. -/
lemma recordOn_write {room : Nat} {event : LogEvent} (htidy : Tidy event.toJson)
    (hfree : FloatFree event.toJson) (hfits : WithinBounds (.within room) event.toJson) :
    recordOn room event.toJson.write = .ok (some (Json.rawFields event.fields)) := by
  have htrim : Text.trimBlanks event.toJson.write = event.toJson.write := by
    rw [toJson_logEvent, Json.write]
    refine trimBlanks_of_isTrimmed ⟨fun c hc => ?_, fun c hc => ?_⟩
    · obtain rfl := Option.some.inj hc
      rfl
    · rw [List.getLast?_concat] at hc
      obtain rfl := Option.some.inj hc
      rfl
  obtain ⟨found, hfound, hsame⟩ := parseChars_write htidy hfits
  have hexact := eq_of_withoutFloats hfree found hsame
  unfold recordOn
  rw [htrim, hfound, hexact, toJson_logEvent]
  rfl

lemma eventsText_cons (event : LogEvent) (events : List LogEvent) :
    eventsText (event :: events) = event.toJson.render ++ "\n" ++ eventsText events := by
  simp [eventsText]

lemma hasLines_eventsText {events : List LogEvent}
    (h : ∀ event ∈ events, LineOf event.toJson event.toJson.render) :
    HasLines (eventsText events).toList (events.map fun event => event.toJson.write) := by
  induction events with
  | nil => exact .nil
  | cons event events ih =>
    obtain ⟨hevent, hevents⟩ := List.forall_mem_cons.mp h
    have hprintable := hevent.printable
    rw [Json.render, String.toList_ofList] at hprintable
    have htext : (eventsText (event :: events)).toList =
        event.toJson.write ++ (['\n'] ++ (eventsText events).toList) := by
      rw [eventsText_cons, Json.render]
      simp
    rw [htext, List.map_cons]
    refine .cons (fun hmem => ?_) (fun hmem => ?_) (.inl rfl) (ih hevents)
    · exact absurd (hprintable _ hmem).1 (by decide)
    · exact absurd (hprintable _ hmem).1 (by decide)

lemma head?_eventsText (events : List LogEvent) :
    (eventsText events).toList.head? ≠ some '\n' := by
  cases events with
  | nil => simp [eventsText]
  | cons event events =>
    rw [eventsText_cons, toJson_logEvent, Json.render]
    simp [Json.write]

/-- The lines of a journal, with records written behind them. -/
lemma hasLines_append_eventsText {text : String} {lines : List (List Char)}
    {events : List LogEvent} (htext : HasLines text.toList lines)
    (hlines : ∀ event ∈ events, LineOf event.toJson event.toJson.render) :
    HasLines (text ++ eventsText events).toList
      (lines ++ events.map fun event => event.toJson.write) := by
  rw [String.toList_append]
  exact hasLines_append htext (hasLines_eventsText hlines) (head?_eventsText events)

/-- With records written behind the lines of a journal, it is read as what was there before and the
records, in the order in which they were written. -/
theorem records_append_eventsText {room : Nat} {text : String} {lines : List (List Char)}
    {events : List LogEvent} (htext : HasLines text.toList lines)
    (hlegible : ∀ line ∈ lines, Legible room line)
    (htidy : ∀ event ∈ events, Tidy event.toJson)
    (hfree : ∀ event ∈ events, FloatFree event.toJson)
    (hfits : ∀ event ∈ events, WithinBounds (.within room) event.toJson) :
    records room (text ++ eventsText events) =
      .ok (lines.filterMap (recordOn? room) ++
        events.map fun event => Json.rawFields event.fields) := by
  have hwrite (event : LogEvent) (hevent : event ∈ events) :
      recordOn room event.toJson.write = .ok (some (Json.rawFields event.fields)) :=
    recordOn_write (htidy event hevent) (hfree event hevent) (hfits event hevent)
  have hwritten : (events.map fun event => event.toJson.write).filterMap (recordOn? room) =
      events.map fun event => Json.rawFields event.fields := by
    rw [List.filterMap_map, ← List.filterMap_eq_map]
    refine List.filterMap_congr fun event hevent => ?_
    rw [Function.comp_apply, recordOn?, hwrite event hevent]
    rfl
  have hall : ∀ line ∈ lines ++ events.map fun event => event.toJson.write,
      Legible room line := by
    intro line hline
    rcases List.mem_append.mp hline with hmem | hwritten
    · exact hlegible line hmem
    · obtain ⟨event, hevent, rfl⟩ := List.mem_map.mp hwritten
      exact ⟨_, hwrite event hevent⟩
  rw [records_of_hasLines (hasLines_append_eventsText htext fun event hevent =>
    lineOf_render (htidy event hevent)) hall, List.filterMap_append, hwritten]

end StoryAtlas.Proofs
