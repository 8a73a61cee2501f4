import StoryAtlas.Proofs.JournalLines
import StoryAtlas.Proofs.SavedFiles
import StoryAtlas.Proofs.ServedLines

/-!
# Reading a log back

What is read from a log are the newest of its records, those that were there before and those that
were appended, in the order in which they came. A server reads its log of requests in this way.
Refused are a number of records that is too large to be counted, a line of the log beyond the limits
of the interpreter, and a record beyond them.
-/

namespace StoryAtlas.Proofs
open StoryAtlas.Disk StoryAtlas.Journal

/-! ### Reading a file of records -/

lemma locate_target_of_filePlace {disk : Disk} {p : Path} {place : List String}
    (h : FilePlace disk p place) :
    (disk.locate .target p = .ok ⟨place, none⟩ ∧ bytesAt disk.tree place = ByteArray.empty) ∨
      disk.locate .target p = .ok ⟨place, some (.file (bytesAt disk.tree place))⟩ := by
  obtain ⟨node, hlocate, hnode⟩ := h
  obtain ⟨haskable, hwalk⟩ := (locate_eq_ok_iff disk .file p _).mp hlocate
  have htarget := (locate_eq_ok_iff disk .target p _).mpr
    ⟨haskable, walk_target _ _ _ _ _ hwalk⟩
  cases node with
  | none =>
    have hget := get?_of_missing (walk_missing _ _ _ _ _ _ hwalk)
    exact Or.inl ⟨htarget, by simp [bytesAt, hget]⟩
  | some node =>
    obtain ⟨content, rfl⟩ := hnode node rfl
    have hget := walk_get? _ _ _ _ _ _ _ hwalk
    have hbytes : bytesAt disk.tree place = content := by simp [bytesAt, hget]
    rw [hbytes]
    exact Or.inr htarget

lemma newest_of_lt_one {limit : Int} (h : limit < 1) (found : List RawFields) :
    newest limit found = [] := by
  have hzero : limit.toNat = 0 := by omega
  simp [newest, hzero]

section Read

variable {room : Nat} {disk : Disk} {file : Path} {place : List String} {text : String}
  (hplace : FilePlace disk file place)

lemma read_of_lt_one (since : Option String) {limit : Int} (hlimit : limit < 1) :
    read room disk file since limit = .ok [] := by
  unfold Journal.read
  rw [if_pos hlimit]

include hplace

/-- A number of records that is too large to be counted is refused, unless there is no file. -/
lemma read_of_large (since : Option String) {limit : Int} (hlimit : maxLimit < limit) :
    read room disk file since limit =
      if disk.hasNode file = .ok true then .error .limitTooLarge else .ok [] := by
  have hpositive : ¬limit < 1 := by
    unfold maxLimit at hlimit
    omega
  unfold Journal.read
  rw [if_neg hpositive]
  rcases locate_target_of_filePlace hplace with ⟨hnone, _⟩ | hthere
  · have hmissing : disk.hasNode file = .ok false := by
      simp [Disk.hasNode, Disk.asks, Disk.nodeAt, hnone]
    simp [hmissing]
  · have hfound : disk.hasNode file = .ok true := by
      simp [Disk.hasNode, Disk.asks, Disk.nodeAt, hthere]
    simp [hfound, hlimit]

variable (htext : bytesAt disk.tree place = text.toUTF8)

include htext

/-- The file of a log is there with its text, or the log has no text. -/
lemma hasNode_of_filePlace : (disk.hasNode file = .ok false ∧ text = "") ∨
    (disk.hasNode file = .ok true ∧ disk.readText file = .ok text) := by
  rcases locate_target_of_filePlace hplace with ⟨hnone, hempty⟩ | hfile
  · refine Or.inl ⟨by simp [Disk.hasNode, Disk.asks, Disk.nodeAt, hnone], ?_⟩
    apply String.toByteArray_inj.mp
    exact htext.symm.trans hempty
  · refine Or.inr ⟨by simp [Disk.hasNode, Disk.asks, Disk.nodeAt, hfile], ?_⟩
    have hbytes : disk.readBytes file = .ok text.toUTF8 := by
      simp only [Disk.readBytes, Disk.nodeAt, hfile, htext]
    simp only [Disk.readText, hbytes, fromUTF8?_toUTF8]

lemma read_of_records (since : Option String) {limit : Int} (hlimit : limit ≤ maxLimit)
    {found : List RawFields} (hfound : records room text = .ok found) :
    read room disk file since limit = .ok (newest limit (select since found)) := by
  unfold Journal.read
  split_ifs with hlow hhigh
  · rw [newest_of_lt_one hlow]
  · omega
  · rcases hasNode_of_filePlace hplace htext with ⟨hmissing, rfl⟩ | ⟨hthere, hread⟩
    · have hnone : records room "" = .ok [] := rfl
      obtain rfl := Except.ok.inj (hnone.symm.trans hfound)
      rw [hmissing]
      cases since <;> simp [select, newest]
    · simp only [hthere, hread, hfound]

lemma read_of_refused (since : Option String) {limit : Int} (hlow : 1 ≤ limit)
    (hhigh : limit ≤ maxLimit) {refusal : Json.Refusal}
    (hrefused : records room text = .error refusal) :
    read room disk file since limit = .error (.json refusal) := by
  unfold Journal.read
  rw [if_neg (not_lt.mpr hlow), if_neg (not_lt.mpr hhigh)]
  rcases hasNode_of_filePlace hplace htext with ⟨_, rfl⟩ | ⟨hthere, hread⟩
  · cases hrefused
  · simp only [hthere, hread, hrefused]

end Read

/-! ### Appending records -/

/-- Appends a record of each event. -/
def appendEvents (room : Nat) (disk : Disk) (file : Path) : List LogEvent → Except Fault Disk
  | [] => .ok disk
  | event :: events =>
    match Journal.append room disk file event.fields event.toJson with
    | .error e => .error e
    | .ok disk => appendEvents room disk file events

/-- The fields of the event are within the limits of the interpreter. -/
def Writable (room : Nat) (event : LogEvent) : Prop :=
  event.fields.refusal? (.within room) = none

lemma toUTF8_append (s t : String) : (s ++ t).toUTF8 = s.toUTF8 ++ t.toUTF8 :=
  String.toByteArray_append

lemma append_of_writable {room : Nat} {event : LogEvent} (h : Writable room event) (disk : Disk)
    (file : Path) : Journal.append room disk file event.fields event.toJson =
      disk.append file (event.toJson.render ++ "\n").toUTF8 := by
  rw [Writable] at h
  rw [Journal.append, h]

/-- The text of a log grows by the lines of its records, by induction on the records. -/
lemma appendEvents_of_filePlace {room : Nat} {disk : Disk} {file : Path} {place : List String}
    {text : String} {events : List LogEvent} (hwritable : ∀ event ∈ events, Writable room event)
    (hfile : file.parts ≠ []) (hplace : FilePlace disk file place)
    (htext : bytesAt disk.tree place = text.toUTF8) :
    ∃ after, appendEvents room disk file events = .ok after ∧ FilePlace after file place ∧
      bytesAt after.tree place = (text ++ eventsText events).toUTF8 := by
  induction events generalizing disk text with
  | nil =>
    refine ⟨disk, rfl, hplace, ?_⟩
    simpa [eventsText] using htext
  | cons event events ih =>
    obtain ⟨hevent, hevents⟩ := List.forall_mem_cons.mp hwritable
    obtain ⟨next, happend⟩ :
        ∃ next, disk.append file (event.toJson.render ++ "\n").toUTF8 = .ok next :=
      ⟨_, append_of_filePlace disk file place _ hplace⟩
    have hnext := filePlace_appendsTo hfile ⟨_, happend⟩ hfile hplace
    have hbytes := bytesAt_append disk next file place _ hfile hplace happend
    rw [htext, ← toUTF8_append] at hbytes
    obtain ⟨after, hafter, hplaced, hgrown⟩ := ih hevents hnext hbytes
    refine ⟨after, ?_, hplaced, ?_⟩
    · rw [appendEvents, append_of_writable hevent, happend]
      exact hafter
    · rw [hgrown, eventsText_cons, String.append_assoc]

/-- The first record beyond the limits is refused, whatever was to come behind it. -/
lemma appendEvents_of_refused {room : Nat} {disk : Disk} {file : Path} {place : List String}
    {text : String} {front rest : List LogEvent} {event : LogEvent} {refusal : Json.Refusal}
    (hfront : ∀ event ∈ front, Writable room event)
    (hevent : event.fields.refusal? (.within room) = some refusal) (hfile : file.parts ≠ [])
    (hplace : FilePlace disk file place) (htext : bytesAt disk.tree place = text.toUTF8) :
    appendEvents room disk file (front ++ event :: rest) = .error (.json refusal) := by
  induction front generalizing disk text with
  | nil => rw [List.nil_append, appendEvents, Journal.append, hevent]
  | cons first front ih =>
    obtain ⟨hfirst, hothers⟩ := List.forall_mem_cons.mp hfront
    obtain ⟨next, happend⟩ :
        ∃ next, disk.append file (first.toJson.render ++ "\n").toUTF8 = .ok next :=
      ⟨_, append_of_filePlace disk file place _ hplace⟩
    have hnext := filePlace_appendsTo hfile ⟨_, happend⟩ hfile hplace
    have hbytes := bytesAt_append disk next file place _ hfile hplace happend
    rw [htext, ← toUTF8_append] at hbytes
    rw [List.cons_append, appendEvents, append_of_writable hfirst, happend]
    exact ih hothers hnext hbytes

/-! ### The log of requests -/

lemma journalText_eq_eventsText (records : List AuditRecord) :
    journalText records = eventsText (records.map .audit) := by
  rw [journalText, eventsText, List.map_map]
  rfl

lemma limitArgument_of_int {arguments : Fields} {limit : Int}
    (h : Fields.get? arguments "limit" = some (.int limit)) :
    limitArgument arguments = min (max limit 1) 500 := by
  simp only [limitArgument, h]

lemma exists_recordOf {replies : List Reply} {records : List AuditRecord}
    (h : List.Forall₂ RecordOf replies records) {record : AuditRecord}
    (hrecord : record ∈ records) : ∃ reply, RecordOf reply record := by
  induction h with
  | nil => cases hrecord
  | @cons reply first _ _ hfirst _ ih =>
    rcases List.mem_cons.mp hrecord with rfl | hmem
    · exact ⟨reply, hfirst⟩
    · exact ih hmem

/-- The records of the lines and of the events behind them, since a time if one is given. -/
def loggedSince (room : Nat) (since : Option String) (lines : List (List Char))
    (events : List LogEvent) : List RawFields :=
  select since (lines.filterMap (recordOn? room) ++
    events.map fun event => Json.rawFields event.fields)

/-- All of this is within the limits when it is read: the lines, and the events behind them. -/
structure Readable (room : Nat) (lines : List (List Char)) (events : List LogEvent) : Prop where
  lines : ∀ line ∈ lines, Legible room line
  events : ∀ event ∈ events, WithinBounds (.within room) event.toJson

/-- A log whose lines are known is read with the records that were written behind them. -/
lemma read_of_eventsText {room : Nat} {disk : Disk} {file : Path} {place : List String}
    {before : String} {lines : List (List Char)} {events : List LogEvent}
    (hplace : FilePlace disk file place)
    (hbytes : bytesAt disk.tree place = (before ++ eventsText events).toUTF8)
    (hlines : HasLines before.toList lines) (htidy : ∀ event ∈ events, Tidy event.toJson)
    (hfree : ∀ event ∈ events, FloatFree event.toJson) (hreadable : Readable room lines events)
    (since : Option String) {limit : Int} (hlimit : limit ≤ maxLimit) :
    read room disk file since limit = .ok (newest limit (loggedSince room since lines events)) :=
  read_of_records hplace hbytes since hlimit
    (records_append_eventsText hlines hreadable.lines htidy hfree hreadable.events)

/-- The tool that shows the log finds these records, and if they are texts throughout, they are its
result. -/
structure Shows (session : Session) (now : Moment) (arguments : Fields) (found : List RawFields) :
    Prop where
  entries : session.auditEntries now arguments = .ok found
  result : ∀ entries, RawJson.itemsToJson? (found.map .obj) = some entries →
    session.run now .auditLog arguments =
      (session, .ok (Fields.ofList [("entries", .arr entries)]))

/-- A server that has answered requests shows the newest of the records that were in its log, and of
those of the requests. -/
lemma run_auditLog_of_logsAt {session : Session} {place indexPlace : List String} {text : String}
    {lines : List (List Char)} (hlogs : LogsAt session place indexPlace)
    (htext : bytesAt session.disk.tree place = text.toUTF8) (hlines : HasLines text.toList lines)
    (clock : Clock) (requests : List String)
    (haccepted : AllAccepted clock ((requests.map Text.trim).filter (· ≠ ""))) :
    ∃ replies logged next,
      session.serveLines clock requests = (next, .ok (replies.map Reply.line)) ∧
      List.Forall₂ RecordOf replies logged ∧
      ((∀ record ∈ logged, ∀ field ∈ record.metadata, FloatFree field.2) →
        ∀ (now : Moment) arguments limit, Readable now.logRoom lines (logged.map .audit) →
          Fields.get? arguments "limit" = some (.int limit) →
            Shows next now arguments (newest (min (max limit 1) 500)
              (loggedSince now.logRoom (sinceArgument arguments) lines (logged.map .audit)))) := by
  obtain ⟨replies, logged, next, hserve, _, hconfig, hnext, _, hrecords, hbytes⟩ :=
    serveLines_of_logsAt session clock place indexPlace hlogs requests haccepted
  refine ⟨replies, logged, next, hserve, hrecords,
    fun hfree now arguments limit hreadable hlimit => ?_⟩
  have hgrown : bytesAt next.disk.tree place =
      (text ++ eventsText (logged.map .audit)).toUTF8 := by
    rw [hbytes, htext, journalText_eq_eventsText, toUTF8_append]
  have htidy : ∀ event ∈ logged.map LogEvent.audit, Tidy event.toJson := by
    intro event hevent
    obtain ⟨record, hrecord, rfl⟩ := List.mem_map.mp hevent
    obtain ⟨reply, hreply⟩ := exists_recordOf hrecords hrecord
    exact hreply.tidy
  have hexact : ∀ event ∈ logged.map LogEvent.audit, FloatFree event.toJson := by
    intro event hevent
    obtain ⟨record, hrecord, rfl⟩ := List.mem_map.mp hevent
    exact floatFree_logEvent (hfree record hrecord)
  have hcapped : min (max limit 1) 500 ≤ maxLimit := by
    unfold maxLimit
    omega
  have hread := read_of_eventsText hnext.audit hgrown hlines htidy hexact hreadable
    (sinceArgument arguments) hcapped
  have hfound : next.auditEntries now arguments = .ok (newest (min (max limit 1) 500)
      (loggedSince now.logRoom (sinceArgument arguments) lines (logged.map .audit))) := by
    rw [Session.auditEntries, limitArgument_of_int hlimit, hread]
  refine ⟨hfound, fun entries hentries => ?_⟩
  unfold Session.run Session.askAuditLog
  simp only [hfound, Session.entriesResult, hentries]

/-- What is read from a log are the newest of its records: first those on the lines that were there,
whatever else stood between them, then those of the events that were appended, with all their
fields. The tool that shows the log of a server reads it so, behind whatever requests. Three things
are refused: a number of records above the largest that can be counted, a line beyond the limits of
the interpreter, before anything behind it is read, and a record beyond them, before anything behind
it is appended. -/
theorem log_reads_back (writeRoom : Nat) (disk : Disk) (file : Path) (place : List String)
    (text : String) (events : List LogEvent) (hfile : file.parts ≠ [])
    (hplace : FilePlace disk file place) (htext : bytesAt disk.tree place = text.toUTF8)
    (hends : EndsLine text.toList) (hevents : ∀ event ∈ events, Loggable event) : ∃ lines,
    HasLines text.toList lines ∧
    ((∀ event ∈ events, Writable writeRoom event) →
      ∃ after, appendEvents writeRoom disk file events = .ok after ∧
        (∀ room since limit, limit < 1 → read room after file since limit = .ok []) ∧
        (∀ room since limit, limit ≤ maxLimit → Readable room lines events →
          read room after file since limit =
            .ok (newest limit (loggedSince room since lines events))) ∧
        (∀ room since limit, 1 ≤ limit → limit ≤ maxLimit → ∀ front line rest refusal,
          lines = front ++ line :: rest → (∀ line ∈ front, Legible room line) →
            recordOn room line = .error refusal →
              read room after file since limit = .error (.json refusal)) ∧
        ∀ room since limit, maxLimit < limit → read room after file since limit =
          if after.hasNode file = .ok true then .error .limitTooLarge else .ok []) ∧
    (∀ front event rest refusal, events = front ++ event :: rest →
      (∀ event ∈ front, Writable writeRoom event) →
        event.fields.refusal? (.within writeRoom) = some refusal →
          appendEvents writeRoom disk file events = .error (.json refusal)) ∧
    ∀ session indexPlace, session.disk = disk → session.auditFile = file →
      LogsAt session place indexPlace → ∀ clock requests,
        AllAccepted clock ((requests.map Text.trim).filter (· ≠ "")) → ∃ replies logged next,
          session.serveLines clock requests = (next, .ok (replies.map Reply.line)) ∧
          List.Forall₂ RecordOf replies logged ∧
          ((∀ record ∈ logged, ∀ field ∈ record.metadata, FloatFree field.2) →
            ∀ (now : Moment) arguments limit, Readable now.logRoom lines (logged.map .audit) →
              Fields.get? arguments "limit" = some (.int limit) →
                Shows next now arguments (newest (min (max limit 1) 500) (loggedSince now.logRoom
                  (sinceArgument arguments) lines (logged.map .audit)))) := by
  obtain ⟨lines, hlines⟩ := exists_hasLines text.toList hends
  refine ⟨lines, hlines, fun hwritable => ?_, ?_, ?_⟩
  · obtain ⟨after, hafter, hplaced, hgrown⟩ :=
      appendEvents_of_filePlace hwritable hfile hplace htext
    have htidy : ∀ event ∈ events, Tidy event.toJson := fun event hevent =>
      tidy_logEvent (hevents event hevent).tidy
    refine ⟨after, hafter, fun _ since _ hlimit => read_of_lt_one since hlimit, ?_, ?_,
      fun _ since _ hlimit => read_of_large hplaced since hlimit⟩
    · intro room since limit hlimit hreadable
      exact read_of_eventsText hplaced hgrown hlines htidy
        (fun event hevent => floatFree_logEvent (hevents event hevent).floatFree) hreadable since
        hlimit
    · rintro room since limit hlow hhigh front line rest refusal rfl hfront hline
      have hall := hasLines_append_eventsText hlines fun event hevent =>
        lineOf_render (htidy event hevent)
      rw [List.append_assoc, List.cons_append] at hall
      exact read_of_refused hplaced hgrown since hlow hhigh (records_of_refused hall hfront hline)
  · rintro front event rest refusal rfl hfront hevent
    exact appendEvents_of_refused hfront hevent hfile hplace htext
  · rintro session indexPlace rfl rfl hlogs clock requests haccepted
    exact run_auditLog_of_logsAt hlogs htext hlines clock requests haccepted

/-- A log with a line that is no JSON, a value that is no object and a blank line. -/
def strayLog : Disk where
  tree := .dir [("audit.jsonl", .file "no json\n[1]\r\n \t\n".toUTF8)]
  cwd := ⟨.root, []⟩
  linkRoom := 900

def strayFile : Path := ⟨.root, ["audit.jsonl"]⟩

/-- A request whose id has a line feed, a line separator and a character beyond the first plane. -/
def strangeEvent : LogEvent :=
  .audit ⟨"t", "a\n\u2028😀", "ink.status", true, false, none, [("line", .int 3)]⟩

theorem log_reads_back_stray : strayFile.parts ≠ [] ∧
    FilePlace strayLog strayFile ["audit.jsonl"] ∧
    bytesAt strayLog.tree ["audit.jsonl"] = "no json\n[1]\r\n \t\n".toUTF8 ∧
    EndsLine "no json\n[1]\r\n \t\n".toList ∧ Loggable strangeEvent ∧
    Writable 900 strangeEvent ∧ ∃ lines after, Readable 900 lines [strangeEvent] ∧
      appendEvents 900 strayLog strayFile [strangeEvent] = .ok after ∧
      read 900 after strayFile none 50 = .ok [Json.rawFields strangeEvent.fields] := by
  have hplace : FilePlace strayLog strayFile ["audit.jsonl"] :=
    ⟨some (.file "no json\n[1]\r\n \t\n".toUTF8), rfl, by simp⟩
  have hends : EndsLine "no json\n[1]\r\n \t\n".toList := by
    intro c hc
    exact Or.inl (Option.some.inj hc).symm
  have hevent : Loggable strangeEvent := by
    refine ⟨⟨List.pairwise_singleton _ _, ?_⟩, ?_⟩ <;> simp [strangeEvent, LogEvent.detail]
  have hwritable : Writable 900 strangeEvent := by
    rw [Writable]
    decide +kernel
  have hwithin : WithinBounds (.within 900) strangeEvent.toJson := by
    constructor <;> decide +kernel
  obtain ⟨lines, hlines, happend, _⟩ := log_reads_back 900 strayLog strayFile ["audit.jsonl"] _
    [strangeEvent] (by simp [strayFile]) hplace rfl hends (by simpa using hevent)
  obtain ⟨after, hafter, _, hread, _⟩ := happend (by simpa using hwritable)
  have hrecords : records 900 "no json\n[1]\r\n \t\n" = .ok [] := by
    have hcount : (records 900 "no json\n[1]\r\n \t\n").map List.length = .ok 0 := by
      decide +kernel
    obtain ⟨found, hfound, hnone⟩ := map_eq_ok hcount
    rw [hfound, List.length_eq_zero_iff.mp hnone]
  have hlegible := legible_of_records hlines hrecords
  have hreadable : Readable 900 lines [strangeEvent] := ⟨hlegible, by simpa using hwithin⟩
  refine ⟨by simp [strayFile], hplace, rfl, hends, hevent, hwritable, lines, after, hreadable,
    hafter, ?_⟩
  have hnone : lines.filterMap (recordOn? 900) = [] :=
    Except.ok.inj ((records_of_hasLines hlines hlegible).symm.trans hrecords)
  rw [hread 900 none 50 (by decide) hreadable, loggedSince, hnone]
  rfl

/-- A log with one line. -/
def lineLog (line : String) : Disk where
  tree := .dir [("audit.jsonl", .file (line ++ "\n").toUTF8)]
  cwd := ⟨.root, []⟩
  linkRoom := 900

lemma read_lineLog_of_deep {room count : Nat} (h : room < count) :
    read room (lineLog (String.ofList (List.replicate count '['))) strayFile none 50 =
      .error (.json .tooDeep) := by
  have hplace : FilePlace (lineLog (String.ofList (List.replicate count '['))) strayFile
      ["audit.jsonl"] := ⟨some (.file _), rfl, by simp⟩
  exact read_of_refused hplace rfl none (by decide) (by decide) (records_replicate h)

/-- With a record in the log, asking for one more than the largest number is refused. A log with a
line of more brackets than the stack has room for is refused as well. -/
theorem read_stops_at_limits :
    (read 900 (lineLog "\x7b\"timestamp\": \"t\"\x7d") strayFile none maxLimit).map List.length =
      .ok 1 ∧
    (read 900 (lineLog "\x7b\"timestamp\": \"t\"\x7d") strayFile none (maxLimit + 1)).map
      List.length = .error .limitTooLarge ∧
    read 900 (lineLog (String.ofList (List.replicate 100000 '['))) strayFile none 50 =
      .error (.json .tooDeep) := by
  refine ⟨?_, ?_, read_lineLog_of_deep (by decide)⟩ <;> decide +kernel

end StoryAtlas.Proofs
