import StoryAtlas.Proofs.JsonTexts
import StoryAtlas.Server.Dispatch

/-!
# Replies and records as texts

Every reply, be it a result, an error or a refusal, is a JSON value with its keys in order, and so
is the record that is kept of it. The line on which a reply is sent therefore tells the reply.
-/

namespace StoryAtlas.Proofs
open StoryAtlas.Disk StoryAtlas.Story

/-! ### Results -/

@[simp] lemma tidy_config (config : Config) : Tidy config.toJson := by
  refine tidy_object _ ?_
  have hlimits : Tidy (.object
      [("max_file_bytes", .int config.limits.maxFileBytes),
       ("max_total_bytes_per_response", .int config.limits.maxResponseBytes)]) :=
    tidy_object _ (by simp)
  have hindex : Tidy (.object
      [("include_extensions", .strings config.filter.extensions),
       ("exclude_globs", .strings config.filter.excludeGlobs),
       ("max_workers", .int config.maxWorkers)]) :=
    tidy_object _ (by simp)
  simp [hlimits, hindex]

lemma tidy_arr_map {α : Type} (f : α → Json) (items : List α) (h : ∀ item, Tidy (f item)) :
    Tidy (.arr (items.map f)) := by
  refine .arr _ fun value hvalue => ?_
  obtain ⟨item, _, rfl⟩ := List.mem_map.mp hvalue
  exact h item

lemma tidy_label (label : Label) : Tidy (Session.labelJson label) :=
  tidy_object _ (by simp)

lemma tidy_stitch (stitch : Stitch) : Tidy (Session.stitchJson stitch) :=
  tidy_object _ (by simp [tidy_arr_map _ stitch.labels tidy_label])

lemma tidy_knot (knot : Knot) : Tidy (Session.knotJson knot) :=
  tidy_object _ (by simp [tidy_arr_map _ knot.stitches tidy_stitch])

lemma tidyFields_buildResult (session : Session) (report : Report) :
    TidyFields (session.buildResult report) := by
  unfold Session.buildResult
  dsimp only
  split_ifs
  · exact tidyFields_ofList _ (by simp)
  · exact tidyFields_ofList _ (by simp)

lemma tidyFields_completeResult (session : Session) (p : Path) (line : Int)
    (before : Option String) : TidyFields (session.completeResult p line before) := by
  unfold Session.completeResult
  split_ifs
  · refine tidyFields_ofList _ ?_
    have hcandidates : Tidy (.arr ((session.index.completions p line).map fun candidate =>
        .object [("name", .str candidate.name), ("kind", .str candidate.kind)])) :=
      tidy_arr_map _ _ fun candidate => tidy_object _ (by simp)
    simp [hcandidates]
  · have hnone : Tidy (.arr []) := .arr [] (by simp)
    exact tidyFields_ofList _ (by simp [hnone])

lemma tidyFields_definitionResult (session : Session) (p : Path) (line : Int)
    (name : Option String) : TidyFields (session.definitionResult p line name) := by
  unfold Session.definitionResult
  split
  · exact tidyFields_ofList _ (by simp)
  · exact tidyFields_ofList _ (by simp)

lemma tidyFields_entriesResult {records : List RawFields} {result : Fields}
    (h : Session.entriesResult records = .ok result) : TidyFields result := by
  unfold Session.entriesResult at h
  split at h
  · cases h
  · next entries hentries =>
    obtain rfl := Except.ok.inj h
    have hrecords : Tidy (.arr entries) := .arr _ (tidy_itemsToJson? _ entries hentries)
    exact tidyFields_ofList _ (by simp [hrecords])

/-- Whatever tool has run, its result has its keys in order. -/
lemma tidyFields_run (session : Session) (now : Moment) (tool : Tool) (arguments result : Fields)
    (h : (session.run now tool arguments).2 = .ok result) : TidyFields result := by
  cases tool with
  | status =>
    obtain rfl := Except.ok.inj h
    exact tidyFields_ofList _ (by simp)
  | buildIndex =>
    unfold Session.run Session.runBuild at h
    dsimp only at h
    split at h
    · obtain rfl := Except.ok.inj h
      exact tidyFields_buildResult _ _
    · cases h
  | update =>
    unfold Session.run Session.runUpdate at h
    dsimp only at h
    split at h
    · cases h
    split at h
    · cases h
    split at h
    · cases h
    split at h
    · obtain rfl := Except.ok.inj h
      exact tidyFields_ofList _ (by simp)
    · cases h
  | outline =>
    unfold Session.run Session.askOutline at h
    dsimp only at h
    split at h
    · cases h
    split at h
    · cases h
    · next file _ =>
      obtain rfl := Except.ok.inj h
      exact tidyFields_ofList _ (by simp [tidy_arr_map _ file.outline.knots tidy_knot])
  | includeScope =>
    unfold Session.run Session.askScope at h
    dsimp only at h
    split at h
    · cases h
    · obtain rfl := Except.ok.inj h
      exact tidyFields_ofList _ (by simp)
  | complete =>
    unfold Session.run Session.askCompletions at h
    dsimp only at h
    split at h
    · cases h
    split at h
    · cases h
    split at h
    · cases h
    · obtain rfl := Except.ok.inj h
      exact tidyFields_completeResult _ _ _ _
  | definition =>
    unfold Session.run Session.askDefinition at h
    dsimp only at h
    split at h
    · cases h
    split at h
    · cases h
    split at h
    · cases h
    · obtain rfl := Except.ok.inj h
      exact tidyFields_definitionResult _ _ _ _
  | auditLog =>
    unfold Session.run Session.askAuditLog at h
    dsimp only at h
    split at h
    · cases h
    · exact tidyFields_entriesResult h

/-! ### Replies -/

/-- A text that is one line of printable ASCII and reads back as a value, up to floating-point
values. -/
structure LineOf (value : Json) (line : String) : Prop where
  printable : ∀ c ∈ line.toList, 0x20 ≤ c.toNat ∧ c.toNat < 0x7F
  decodes : ∃ found, Json.decode? line = some found ∧ withoutFloats found = withoutFloats value

lemma lineOf_render {value : Json} (h : Tidy value) : LineOf value value.render := by
  refine ⟨fun c hc => ?_, decode?_render h⟩
  rw [Json.render, String.toList_ofList] at hc
  exact isPrintable_write h c hc

lemma tidy_reply (reply : Reply) (h : TidyFields reply.result) : Tidy reply.toJson := by
  have hresult := (tidy_obj_iff _).mpr h
  unfold Reply.toJson
  dsimp only
  cases reply.error with
  | none => exact tidy_object _ (by simp [hresult])
  | some error =>
    have herror : Tidy (.object [("code", .str error.code), ("message", .str error.message)]) :=
      tidy_object _ (by simp)
    exact tidy_object _ (by simp [hresult, herror])

/-- A reply as it may be sent by a server with a limit on the size of its replies. -/
structure WellSent (limit : Int) (reply : Reply) : Prop where
  line : LineOf reply.toJson reply.line
  errorField : ∃ fields : Fields, reply.toJson = .obj fields ∧
    ((fields.get? "error").isSome = true ↔ reply.ok = false)
  error : reply.error.isSome = true ↔ reply.ok = false
  blocked : reply.blocked = true → reply.ok = false
  warnings : reply.result.get? warningsKey = none
  fits : reply.ok = true → (reply.line.utf8ByteSize : Int) ≤ limit

lemma error_toJson (reply : Reply) : ∃ fields : Fields, reply.toJson = .obj fields ∧
    (fields.get? "error").isSome = reply.error.isSome := by
  unfold Reply.toJson
  dsimp only
  cases reply.error with
  | none => exact ⟨_, rfl, by rw [get?_ofList_of_notMem _ _ (by simp)]; rfl⟩
  | some error => exact ⟨_, rfl, by rw [get?_ofList_append]; rfl⟩

lemma wellSent_of_refused (limit : Int) (reply : Reply) (hok : reply.ok = false)
    (herror : reply.error.isSome = true) (hresult : TidyFields reply.result)
    (hwarnings : reply.result.get? warningsKey = none) : WellSent limit reply := by
  obtain ⟨fields, hfields, hsome⟩ := error_toJson reply
  refine ⟨lineOf_render (tidy_reply reply hresult), ⟨fields, hfields, ?_⟩, ?_, fun _ => hok,
    hwarnings, ?_⟩
  · simp [hsome, herror, hok]
  · simp [herror, hok]
  · simp [hok]

lemma wellSent_failure (limit : Int) (id code message : String) :
    WellSent limit (.failure id code message) :=
  wellSent_of_refused limit _ rfl rfl tidyFields_nil rfl

lemma wellSent_refusal (limit : Int) (id code reason hint : String) :
    WellSent limit (.refusal id code reason hint) :=
  wellSent_of_refused limit _ rfl rfl (tidyFields_ofList _ (by simp))
    (get?_ofList_of_notMem _ _ (by simp [warningsKey]))

lemma wellSent_toolFailure (limit : Int) (id : String) (failure : ToolFailure) :
    WellSent limit (failure.reply id) := by
  cases failure with
  | path refusal => exact wellSent_refusal limit _ _ _ _
  | policy refusal => exact wellSent_refusal limit _ _ _ _
  | tool error => exact wellSent_failure limit _ _ _
  | disk fault => exact wellSent_failure limit _ _ _

lemma wellSent_replyWith (session : Session) (id : String) (result : Fields)
    (h : TidyFields result) :
    WellSent session.config.limits.maxResponseBytes (session.replyWith id result) := by
  unfold Session.replyWith
  dsimp only
  split_ifs with hsize
  · exact wellSent_toolFailure _ id _
  · have hresult := tidyFields_erase result warningsKey h
    obtain ⟨fields, hfields, hsome⟩ := error_toJson
      (Reply.success id (splitWarnings result).2 (splitWarnings result).1)
    refine ⟨lineOf_render (tidy_reply _ hresult), ⟨fields, hfields, ?_⟩, ?_, ?_,
      get?_erase result warningsKey, fun _ => not_lt.mp hsize⟩
    · rw [hsome]
      simp [Reply.success]
    · simp [Reply.success]
    · simp [Reply.success]

lemma wellSent_answer (session : Session) (now : Moment) (request : Request)
    (hconfig : (session.answer now request).1.config = session.config) :
    WellSent session.config.limits.maxResponseBytes (session.answer now request).2 := by
  unfold Session.answer at hconfig ⊢
  split at hconfig
  · exact wellSent_failure _ _ _ _
  next tool _ =>
  split at hconfig
  · next after result hrun =>
    have hresult := tidyFields_run session now tool request.arguments result (by rw [hrun])
    rw [← hconfig]
    exact wellSent_replyWith after request.id result hresult
  · exact wellSent_toolFailure _ _ _

/-! ### Records -/

/-- A record that tells the outcome of a reply. -/
structure RecordOf (reply : Reply) (record : AuditRecord) : Prop where
  tidy : Tidy record.toJson
  line : LineOf record.toJson record.toJson.render
  requestId : record.requestId = reply.requestId
  ok : record.ok = reply.ok
  blocked : record.blocked = reply.blocked
  errorCode : record.errorCode = reply.error.map ReplyError.code

lemma tidy_describeArgument (key : String) (value : Json) :
    ∀ field ∈ describeArgument key value, Tidy field.2 := by
  cases value with
  | str s =>
    unfold describeArgument
    split_ifs <;> simp
  | arr items => simp [describeArgument]
  | obj fields => simp [describeArgument]
  | null | bool | int | float => simp [describeArgument]

lemma tidy_record (record : AuditRecord) (arguments : Fields)
    (h : record.metadata = describeArguments arguments) : Tidy record.toJson := by
  have hmetadata : Tidy (.obj record.metadata) := by
    rw [h, tidy_obj_iff]
    refine tidyFields_ofList _ fun field hfield => ?_
    obtain ⟨argument, _, hmem⟩ := List.mem_flatMap.mp hfield
    exact tidy_describeArgument argument.1 argument.2 field hmem
  exact tidy_object _ (by simp [hmetadata])

end StoryAtlas.Proofs
