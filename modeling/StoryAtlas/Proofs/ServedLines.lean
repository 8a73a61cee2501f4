import StoryAtlas.Proofs.LogWrites
import StoryAtlas.Proofs.ReadBounds
import StoryAtlas.Proofs.ReplyTexts

/-!
# One reply and one record for each line

A server whose journals can be written to answers every line of its input that is not blank by one
line of output, in the same order, and keeps one record of each in the journal of requests. Only a
line beyond the limits of the interpreter is not answered.
-/

namespace StoryAtlas.Proofs
open StoryAtlas.Disk Relation

/-- Both journals can be written to, and they are two files. -/
structure LogsWritable (session : Session) : Prop where
  audit : ∀ bytes, ∃ after, session.disk.append session.auditFile bytes = .ok after
  index : ∀ bytes, ∃ after, session.disk.append session.indexFile bytes = .ok after
  apart : ∀ spot other, session.disk.locate .file session.auditFile = .ok spot →
    session.disk.locate .file session.indexFile = .ok other → spot.place ≠ other.place

/-- The lines that are answered, without the blanks around them. -/
def requestLines (input : String) : List String :=
  ((Text.splitText '\n' input).map Text.trim).filter (· ≠ "")

/-- The line is within the limits of the interpreter. -/
def Accepted (now : Moment) (line : String) : Prop :=
  ∀ refusal, Json.parse (.within now.lineRoom) line ≠ .error (.refused refusal)

/-- The lines are within the limits, each when it is read. -/
def AllAccepted (clock : Clock) (lines : List String) : Prop :=
  ∀ n line, lines[n]? = some line → Accepted (clock n) line

lemma allAccepted_cons {clock : Clock} {line : String} {lines : List String}
    (h : AllAccepted clock (line :: lines)) :
    Accepted (clock 0) line ∧ AllAccepted clock.tail lines :=
  ⟨h 0 line rfl, fun n other hother => h (n + 1) other hother⟩

/-- The lines are answered one after the other by the replies. -/
inductive Answered : Clock → Session → List String → List Reply → Session → Prop
  | nil (clock : Clock) (session : Session) : Answered clock session [] [] session
  | cons {clock : Clock} {session next after : Session} {line : String} {reply : Reply}
      {lines : List String} {replies : List Reply}
      (hline : session.handleLine (clock 0) line = (next, .ok reply))
      (hlines : Answered clock.tail next lines replies after) :
      Answered clock session (line :: lines) (reply :: replies) after

/-- The records as they stand in a journal. -/
def journalText (records : List AuditRecord) : String :=
  String.join (records.map fun record => record.toJson.render ++ "\n")

/-! ### The two journals -/

/-- The journals stand at these two places. -/
structure LogsAt (session : Session) (place indexPlace : List String) : Prop where
  audit : FilePlace session.disk session.auditFile place
  index : FilePlace session.disk session.indexFile indexPlace
  apart : place ≠ indexPlace

lemma parts_auditFile (session : Session) : session.auditFile.parts ≠ [] := by
  simp [Session.auditFile, Path.child]

lemma parts_indexFile (session : Session) : session.indexFile.parts ≠ [] := by
  simp [Session.indexFile, Path.child]

lemma logsAt_of_writable (session : Session) (h : LogsWritable session) :
    ∃ place indexPlace, LogsAt session place indexPlace := by
  obtain ⟨audited, haudited⟩ := h.audit ByteArray.empty
  obtain ⟨indexed, hindexed⟩ := h.index ByteArray.empty
  obtain ⟨place, haudit⟩ := filePlace_of_append _ _ _ _ haudited
  obtain ⟨indexPlace, hindex⟩ := filePlace_of_append _ _ _ _ hindexed
  refine ⟨place, indexPlace, haudit, hindex, ?_⟩
  obtain ⟨node, hlocate, _⟩ := haudit
  obtain ⟨node', hlocate', _⟩ := hindex
  exact h.apart _ _ hlocate hlocate'

/-- The record that is kept of a request. -/
def requestRecord (now : Moment) (tool : String) (arguments : Fields) (reply : Reply) :
    AuditRecord where
  timestamp := now.timestamp
  requestId := reply.requestId
  tool := tool
  ok := reply.ok
  blocked := reply.blocked
  errorCode := reply.error.map ReplyError.code
  metadata := describeArguments arguments

/-- The arguments that the record of a request repeats are within the limits of the interpreter. -/
def Recordable (now : Moment) (request : Request) : Prop :=
  (keptArguments request.arguments).refusal? (.within now.logRoom) = none

lemma recordOf_requestRecord (now : Moment) (tool : String) (arguments : Fields) (reply : Reply) :
    RecordOf reply (requestRecord now tool arguments reply) :=
  have htidy := tidy_record (requestRecord now tool arguments reply) arguments rfl
  ⟨htidy, lineOf_render htidy, rfl, rfl, rfl, rfl⟩

lemma requestId_toolFailure (id : String) (failure : ToolFailure) :
    (failure.reply id).requestId = id := by
  cases failure <;> rfl

/-- A request is answered under its id. -/
lemma requestId_answer (session : Session) (now : Moment) (request : Request) :
    (session.answer now request).2.requestId = request.id := by
  unfold Session.answer
  split
  · rfl
  split
  · unfold Session.replyWith
    dsimp only
    split_ifs
    · exact requestId_toolFailure _ _
    · rfl
  · exact requestId_toolFailure _ _

section Journals

variable {session after : Session} {place indexPlace : List String}
  (hlogs : LogsAt session place indexPlace)

include hlogs

/-- Records of the index leave the journal of requests alone. -/
lemma logsAt_of_notes (h : Notes session after) : LogsAt after place indexPlace ∧
    bytesAt after.disk.tree place = bytesAt session.disk.tree place := by
  have hstep : ∀ disk, ReflTransGen (AppendsTo session.indexFile) session.disk disk →
      FilePlace disk session.auditFile place ∧ FilePlace disk session.indexFile indexPlace ∧
        bytesAt disk.tree place = bytesAt session.disk.tree place := by
    intro disk hdisk
    induction hdisk with
    | refl => exact ⟨hlogs.audit, hlogs.index, rfl⟩
    | tail _ happend ih =>
      obtain ⟨haudit, hindex, hbytes⟩ := ih
      have hp := parts_indexFile session
      exact ⟨filePlace_appendsTo hp happend (parts_auditFile session) haudit,
        filePlace_appendsTo hp happend hp hindex,
        (bytesAt_appendsTo_of_ne hp happend hindex hlogs.apart).trans hbytes⟩
  obtain ⟨haudit, hindex, hbytes⟩ := hstep _ h.disk
  rw [← auditFile_of_config h.config] at haudit
  rw [← indexFile_of_config h.config] at hindex
  exact ⟨⟨haudit, hindex, hlogs.apart⟩, hbytes⟩

/-- A record of a request goes behind the others. -/
lemma audit_of_logsAt (now : Moment) (tool : String) {given : Fields} (arguments : Fields)
    (reply : Reply) (hgiven : given.refusal? (.within now.logRoom) = none) :
    ∃ next, session.audit now tool given arguments reply = (next, .ok reply) ∧
      next.config = session.config ∧ LogsAt next place indexPlace ∧
      bytesAt next.disk.tree place = bytesAt session.disk.tree place ++
        ((requestRecord now tool arguments reply).toJson.render ++ "\n").toUTF8 := by
  obtain ⟨disk, happend⟩ : ∃ disk, session.disk.append session.auditFile
      ((requestRecord now tool arguments reply).toJson.render ++ "\n").toUTF8 = .ok disk :=
    ⟨_, append_of_filePlace session.disk session.auditFile place _ hlogs.audit⟩
  have haudit : session.audit now tool given arguments reply =
      ({ session with disk := disk }, .ok reply) := by
    unfold requestRecord at happend
    unfold Session.audit Journal.append
    dsimp only
    rw [hgiven]
    dsimp only
    rw [happend]
  have hp := parts_auditFile session
  refine ⟨{ session with disk := disk }, haudit, rfl, ⟨?_, ?_, hlogs.apart⟩, ?_⟩
  · exact filePlace_appendsTo hp ⟨_, happend⟩ hp hlogs.audit
  · exact filePlace_appendsTo hp ⟨_, happend⟩ (parts_indexFile session) hlogs.index
  · exact bytesAt_append session.disk disk session.auditFile place _ hp hlogs.audit happend

/-- A request is answered under its id, and a record of it goes behind the others. -/
lemma handleRequest_of_logsAt (now : Moment) {payload : Json} {id : String} {used : Nat}
    {request : Request} (hid : chooseId session.usedIds payload = .ok (id, used))
    (hread : Request.read id payload = .ok request) (hgiven : Recordable now request) :
    ∃ next reply, session.handlePayload now payload = (next, .ok reply) ∧
      next.config = session.config ∧ LogsAt next place indexPlace ∧
      WellSent session.config.limits.maxResponseBytes reply ∧ reply.requestId = request.id ∧
      bytesAt next.disk.tree place = bytesAt session.disk.tree place ++
        ((requestRecord now request.tool request.arguments reply).toJson.render ++ "\n").toUTF8 := by
  let numbered := { session with usedIds := used }
  have hnumbered : LogsAt numbered place indexPlace := ⟨hlogs.audit, hlogs.index, hlogs.apart⟩
  -- the tool may write to the journal of the index, and only then the request is recorded
  have hnotes := answer_notes numbered now request
  obtain ⟨hanswered, hkept⟩ := logsAt_of_notes hnumbered hnotes
  obtain ⟨next, haudit, hconfig, hnext, hbytes⟩ := audit_of_logsAt hanswered now request.tool
    request.arguments (numbered.answer now request).2 hgiven
  rw [hkept] at hbytes
  refine ⟨next, _, ?_, hconfig.trans hnotes.config, hnext,
    wellSent_answer numbered now request hnotes.config, requestId_answer numbered now request,
    hbytes⟩
  unfold Session.handlePayload
  simp only [hid, hread]
  exact haudit

/-- A payload within the limits is answered by one reply, and one record is kept of it. -/
lemma handlePayload_of_logsAt (now : Moment) {payload : Json} {id : String} {used : Nat}
    (hid : chooseId session.usedIds payload = .ok (id, used))
    (hgiven : ∀ request, ReadsAs session payload request → Recordable now request) :
    ∃ next reply record, session.handlePayload now payload = (next, .ok reply) ∧
      next.config = session.config ∧ LogsAt next place indexPlace ∧
      WellSent session.config.limits.maxResponseBytes reply ∧ RecordOf reply record ∧
      bytesAt next.disk.tree place =
        bytesAt session.disk.tree place ++ (record.toJson.render ++ "\n").toUTF8 := by
  cases hread : Request.read id payload with
  | error error =>
    have hnumbered : LogsAt { session with usedIds := used } place indexPlace :=
      ⟨hlogs.audit, hlogs.index, hlogs.apart⟩
    obtain ⟨next, haudit, hconfig, hnext, hbytes⟩ :=
      audit_of_logsAt hnumbered now "invalid_request" [] (.failure id error.code error.message)
        (refusal?_nil now.logRoom)
    refine ⟨next, _, _, ?_, hconfig, hnext, wellSent_failure _ _ _ _,
      recordOf_requestRecord _ _ _ _, hbytes⟩
    unfold Session.handlePayload
    simp only [hid, hread]
    exact haudit
  | ok request =>
    obtain ⟨next, reply, hhandle, hconfig, hnext, hsent, _, hbytes⟩ :=
      handleRequest_of_logsAt hlogs now hid hread (hgiven request ⟨id, used, hid, hread⟩)
    exact ⟨next, reply, _, hhandle, hconfig, hnext, hsent, recordOf_requestRecord _ _ _ _,
      hbytes⟩

/-- A line within the limits is answered by one reply, and one record is kept of it. -/
lemma handleLine_of_logsAt (now : Moment) {line : String} (haccepted : Accepted now line) :
    ∃ next reply record, session.handleLine now line = (next, .ok reply) ∧
      next.config = session.config ∧ LogsAt next place indexPlace ∧
      WellSent session.config.limits.maxResponseBytes reply ∧ RecordOf reply record ∧
      bytesAt next.disk.tree place =
        bytesAt session.disk.tree place ++ (record.toJson.render ++ "\n").toUTF8 := by
  generalize hafter : session.handleLine now line = after
  cases hafter ▸ handledLine_handleLine session now line with
  | spelled spelled hparse =>
    generalize hspelled : session.handleSpelled now spelled = after
    cases hspelled ▸ handledSpelled_handleSpelled session now spelled with
    | payload payload htext =>
      have hwidth : payload.width ≤ Json.maxDigits := width_parse (parse_eq_ok hparse htext)
      obtain ⟨id, used, hid⟩ := exists_chooseId session.usedIds hwidth
      refine handlePayload_of_logsAt hlogs now hid fun request hrequest => ?_
      obtain ⟨_, _, _, hread⟩ := hrequest
      exact refusal?_keptArguments now.logRoom (width_arguments hwidth hread)
    | halfPair htext => exact absurd (parse_eq_halfPair hparse htext) (haccepted .halfPair)
  | refused refusal hparse => exact absurd (parse_eq_error hparse) (haccepted refusal)
  | notJson hparse =>
    have hnumbered : LogsAt { session with usedIds := session.usedIds + 1 } place indexPlace :=
      ⟨hlogs.audit, hlogs.index, hlogs.apart⟩
    obtain ⟨next, haudit, hconfig, hnext, hbytes⟩ :=
      audit_of_logsAt hnumbered now "invalid_json"
        (Fields.ofList [("raw_line_length", .int line.length)])
        (.failure (fallbackId (session.usedIds + 1)) "INVALID_JSON" "Request must be valid JSON.")
        (refusal?_nil now.logRoom)
    exact ⟨next, _, _, haudit, hconfig, hnext, wellSent_failure _ _ _ _,
      recordOf_requestRecord _ _ _ _, hbytes⟩

end Journals

/-! ### A whole input -/

lemma toUTF8_journalText_cons (record : AuditRecord) (records : List AuditRecord) :
    (journalText (record :: records)).toUTF8 =
      (record.toJson.render ++ "\n").toUTF8 ++ (journalText records).toUTF8 := by
  have hcons : journalText (record :: records) =
      (record.toJson.render ++ "\n") ++ journalText records := by
    simp [journalText]
  rw [hcons]
  exact String.toByteArray_append

/-- All lines of an input, by induction on the lines that are left. -/
lemma serveLines_of_logsAt (session : Session) (clock : Clock) (place indexPlace : List String)
    (hlogs : LogsAt session place indexPlace) (lines : List String)
    (haccepted : AllAccepted clock ((lines.map Text.trim).filter (· ≠ ""))) :
    ∃ replies records after,
      session.serveLines clock lines = (after, .ok (replies.map Reply.line)) ∧
      Answered clock session ((lines.map Text.trim).filter (· ≠ "")) replies after ∧
      after.config = session.config ∧ LogsAt after place indexPlace ∧
      (∀ reply ∈ replies, WellSent session.config.limits.maxResponseBytes reply) ∧
      List.Forall₂ RecordOf replies records ∧
      bytesAt after.disk.tree place =
        bytesAt session.disk.tree place ++ (journalText records).toUTF8 := by
  induction lines generalizing session clock with
  | nil =>
    refine ⟨[], [], session, rfl, .nil clock session, rfl, hlogs, by simp, .nil, ?_⟩
    simp [journalText]
  | cons line lines ih =>
    unfold Session.serveLines
    dsimp only
    by_cases hblank : Text.trim line = ""
    · rw [List.map_cons, List.filter_cons_of_neg (by simp [hblank])] at haccepted ⊢
      rw [if_pos hblank]
      exact ih session clock hlogs haccepted
    · rw [List.map_cons, List.filter_cons_of_pos (by simp [hblank])] at haccepted ⊢
      rw [if_neg hblank]
      obtain ⟨hfirst, hothers⟩ := allAccepted_cons haccepted
      obtain ⟨next, reply, record, hline, hconfig, hnext, hsent, hrecord, hbytes⟩ :=
        handleLine_of_logsAt hlogs (clock 0) hfirst
      obtain ⟨replies, records, after, hserve, hanswered, hconfig', hafter, hsents, hrecords,
        hbytes'⟩ := ih next clock.tail hnext hothers
      rw [hconfig] at hsents
      refine ⟨reply :: replies, record :: records, after, ?_, .cons hline hanswered,
        hconfig'.trans hconfig, hafter, List.forall_mem_cons.mpr ⟨hsent, hsents⟩,
        .cons hrecord hrecords, ?_⟩
      · rw [hline]
        simp only [hserve, List.map_cons]
      · rw [hbytes', hbytes, toUTF8_journalText_cons, ByteArray.append_assoc]

lemma logsWritable_projectSession : LogsWritable (projectSession []) := by
  have hplace : ∀ name, name = "audit.jsonl" ∨ name = "index.jsonl" →
      (projectSession []).disk.locate .file ((projectSession []).config.dataDir.child name) =
        .ok ⟨["proj", ".ink_index", name], none⟩ := by
    rintro name (rfl | rfl) <;> rfl
  have haudit := hplace "audit.jsonl" (Or.inl rfl)
  have hindex := hplace "index.jsonl" (Or.inr rfl)
  refine ⟨fun bytes => ?_, fun bytes => ?_, fun spot other hspot hother => ?_⟩
  · exact ⟨_, append_of_filePlace _ _ _ bytes ⟨_, haudit, by simp⟩⟩
  · exact ⟨_, append_of_filePlace _ _ _ bytes ⟨_, hindex, by simp⟩⟩
  · obtain rfl := Except.ok.inj (haudit.symm.trans hspot)
    obtain rfl := Except.ok.inj (hindex.symm.trans hother)
    decide

/-- A text that is no JSON, a blank line, a value that is no request, and a request. -/
def mixedInput : String :=
  "no json\n \t\n [1.5]\r\n\x7b\"method\": \"ink.audit_log\"\x7d"

/-- A clock that runs: each call finds a later time. -/
def runningClock : Clock :=
  fun n => { sampleMoment with timestamp := toString n }

lemma requestLines_mixedInput : requestLines mixedInput =
    ["no json", "[1.5]", "\x7b\"method\": \"ink.audit_log\"\x7d"] := by
  decide +kernel

/-- A line is accepted if it is read or is no JSON. -/
lemma accepted_of_parse {now : Moment} {line : String}
    (h : (Json.parse (.within now.lineRoom) line).map (fun _ => ()) = .ok () ∨
      (Json.parse (.within now.lineRoom) line).map (fun _ => ()) = .error .notJson) :
    Accepted now line := by
  intro refusal hrefused
  rw [hrefused] at h
  rcases h with h | h <;> cases h

lemma allAccepted_mixedInput : AllAccepted runningClock (requestLines mixedInput) := by
  rw [requestLines_mixedInput]
  intro n line hline
  have hlines : ∀ line ∈ ["no json", "[1.5]", "\x7b\"method\": \"ink.audit_log\"\x7d"],
      (Json.parse (.within 900) line).map (fun _ => ()) = .ok () ∨
        (Json.parse (.within 900) line).map (fun _ => ()) = .error .notJson := by
    decide +kernel
  exact accepted_of_parse (hlines line (List.mem_of_getElem? hline))

end StoryAtlas.Proofs
