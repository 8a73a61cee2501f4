import StoryAtlas.Proofs.PayloadIds
import StoryAtlas.Proofs.RefusedRequests
import StoryAtlas.Proofs.ServedLines

/-!
# Ids of requests

A request that brings along an id is answered under it. The others are numbered in the order in
which they come, each by one number, whether or not anything else is wrong with them, and no two of
them are answered under one id. A request beyond the limits of the interpreter is not answered: if
its line or its id is, it takes no number either, and if only its arguments are, it takes its
number. What is said of numbers holds of requests with half a surrogate pair in them too, though
their replies are left open.
-/

namespace StoryAtlas.Proofs
open StoryAtlas.Disk

/-! ### Requests -/

/-- One request, as a value or as a line of text. -/
inductive Ask where
  | payload (now : Moment) (spelled : RawJson)
  | line (now : Moment) (text : String)

namespace Ask

/-- What the request says, if it is JSON. -/
def content : Ask → Except Json.ReadError RawJson
  | payload _ spelled => .ok spelled
  | line now text => Json.parseChars (.within now.lineRoom) text.toList

/-- The moment at which the request comes. -/
def now : Ask → Moment
  | payload now _ => now
  | line now _ => now

/-- What the server makes of the request, and its reply. -/
def answer (session : Session) : Ask → Session × Except Fault Reply
  | payload now spelled => session.handleSpelled now spelled
  | line now text => session.handleLine now text

/-- All strings in the request are texts. -/
def InTexts (ask : Ask) : Prop :=
  ∀ spelled, ask.content = .ok spelled → ∃ payload, spelled.toJson? = some payload

/-- The request has no id of its own. -/
def WithoutId (ask : Ask) : Prop :=
  ask.content = .error .notJson ∨ ∃ spelled, ask.content = .ok spelled ∧ Anonymous spelled

/-- The request brings this id along. -/
def Brings (ask : Ask) (id : String) : Prop :=
  ∃ fields value, ask.content = .ok (.obj fields) ∧ RawFields.get? fields "id" = some value ∧
    IsId value id

/-- The line of the request is beyond the limits of the interpreter, or its id is. -/
def Refused (ask : Ask) (refusal : Json.Refusal) : Prop :=
  ask.content = .error (.refused refusal) ∨ refusal = .longNumber ∧ ∃ fields i,
    ask.content = .ok (.obj fields) ∧ RawFields.get? fields "id" = some (.int i) ∧ IsLong i

/-- The request takes a number for its id. -/
def takesNumber (ask : Ask) : Bool :=
  match ask.content with
  | .ok spelled => !spelled.bringsId
  | .error .notJson => true
  | .error (.refused _) => false

end Ask

lemma withoutId_iff (ask : Ask) : ask.WithoutId ↔ ask.takesNumber = true := by
  rw [Ask.WithoutId, Ask.takesNumber]
  cases ask.content with
  | ok spelled => simp [anonymous_iff]
  | error e => cases e <;> simp

instance (ask : Ask) : Decidable ask.WithoutId :=
  decidable_of_iff _ (withoutId_iff ask).symm

/-- The number of requests without an id of their own. -/
def countWithoutId (asks : List Ask) : Nat :=
  asks.countP fun ask => ask.WithoutId

/-! ### One request -/

lemma usedIds_start {config : Config} {disk : Disk} {first : Session}
    (h : Session.start config disk = .ok first) : first.usedIds = 0 := by
  unfold Session.start at h
  dsimp only at h
  split at h
  · cases h
  split at h
  · cases h
  · rw [← Except.ok.inj h]

lemma usedIds_audit (session : Session) (now : Moment) (tool : String) (given arguments : Fields)
    (reply : Reply) :
    (session.audit now tool given arguments reply).1.usedIds = session.usedIds := by
  unfold Session.audit
  dsimp only
  split <;> rfl

lemma usedIds_run (session : Session) (now : Moment) (tool : Tool) (arguments : Fields) :
    (session.run now tool arguments).1.usedIds = session.usedIds := by
  rcases run_runsTo session now tool arguments with ⟨disk, hrun⟩ |
    ⟨changed, event, result, hchanges, hreports⟩
  · rw [hrun]
  · generalize session.run now tool arguments = after at hreports ⊢
    cases hchanges <;> cases hreports <;> rfl

lemma usedIds_build (session : Session) (now : Moment) :
    (session.build now).1.usedIds = session.usedIds := by
  have hrun := usedIds_run session now .buildIndex []
  unfold Session.run Session.runBuild at hrun
  dsimp only at hrun
  split at hrun <;> next after _ hbuild => rwa [hbuild]

lemma usedIds_answer (session : Session) (now : Moment) (request : Request) :
    (session.answer now request).1.usedIds = session.usedIds := by
  unfold Session.answer
  split
  · rfl
  next tool _ =>
  have hrun := usedIds_run session now tool request.arguments
  split <;> next after _ hafter => rwa [hafter] at hrun

lemma id_of_read {id : String} {payload : Json} {request : Request}
    (h : Request.read id payload = .ok request) : request.id = id := by
  unfold Request.read at h
  split at h
  · cases h
  · rw [← Except.ok.inj h]

/-- A payload takes its id before anything else is checked. -/
lemma handlePayload_id (session : Session) (now : Moment) {payload : Json} {id : String}
    {used : Nat} (hid : chooseId session.usedIds payload = .ok (id, used)) :
    (session.handlePayload now payload).1.usedIds = used ∧
      ∀ reply, (session.handlePayload now payload).2 = .ok reply → reply.requestId = id := by
  generalize hafter : session.handlePayload now payload = after
  cases hafter ▸ handled_handlePayload session now payload with
  | refused refusal hrefused => cases hid.symm.trans hrefused
  | malformed id' used' error hid' =>
    cases hid.symm.trans hid'
    refine ⟨usedIds_audit _ _ _ _ _ _, fun reply hreply => ?_⟩
    rw [reply_of_audit _ _ _ _ _ _ _ hreply]
    rfl
  | answered id' used' request hid' hread =>
    cases hid.symm.trans hid'
    refine ⟨(usedIds_audit _ _ _ _ _ _).trans (usedIds_answer _ now request),
      fun reply hreply => ?_⟩
    rw [reply_of_audit _ _ _ _ _ _ _ hreply, requestId_answer, id_of_read hread]

lemma handlePayload_of_refused (session : Session) (now : Moment) {payload : Json}
    {refusal : Json.Refusal} (hid : chooseId session.usedIds payload = .error refusal) :
    session.handlePayload now payload = (session, .error (.json refusal)) := by
  unfold Session.handlePayload
  rw [hid]

lemma handleSpelled_of_toJson? (session : Session) (now : Moment) {spelled : RawJson}
    {payload : Json} (htext : spelled.toJson? = some payload) :
    session.handleSpelled now spelled = session.handlePayload now payload := by
  simp only [Session.handleSpelled, htext]

/-- A payload uses one number if it brings no id along, and else none. -/
lemma usedIds_handleSpelled (session : Session) (now : Moment) (spelled : RawJson) :
    (session.handleSpelled now spelled).1.usedIds =
      session.usedIds + if spelled.bringsId then 0 else 1 := by
  generalize hafter : session.handleSpelled now spelled = after
  cases hafter ▸ handledSpelled_handleSpelled session now spelled with
  | halfPair => rfl
  | payload payload htext =>
    have hown := hasId_payloadId htext
    generalize hid : payloadId payload = own at hown
    cases hown with
    | anonymous _ h =>
      have hchosen : chooseId session.usedIds payload =
          .ok (fallbackId (session.usedIds + 1), session.usedIds + 1) := by
        rw [chooseId, hid]
      rw [(handlePayload_id session now hchosen).1, (anonymous_iff spelled).mp h]
      rfl
    | own fields value id h hvalue =>
      have hchosen : chooseId session.usedIds payload = .ok (id, session.usedIds) := by
        rw [chooseId, hid]
      rw [(handlePayload_id session now hchosen).1, bringsId_of_isId h hvalue]
      rfl
    | long fields i h =>
      have hrefused : chooseId session.usedIds payload = .error .longNumber := by
        rw [chooseId, hid]
      rw [handlePayload_of_refused session now hrefused, bringsId_of_isId h (.whole i)]
      rfl

/-- A reply has the id that was chosen. -/
lemma requestId_handleSpelled {session : Session} {now : Moment} {spelled : RawJson} {reply : Reply}
    (h : (session.handleSpelled now spelled).2 = .ok reply) :
    ∃ own, HasId spelled own ∧ (own = .ok none → reply.requestId = fallbackId (session.usedIds + 1)) ∧
      ∀ id, own = .ok (some id) → reply.requestId = id := by
  generalize hafter : session.handleSpelled now spelled = after at h
  cases hafter ▸ handledSpelled_handleSpelled session now spelled with
  | halfPair => cases h
  | payload payload htext =>
    refine ⟨payloadId payload, hasId_payloadId htext, fun hown => ?_, fun id hown => ?_⟩
    · have hchosen : chooseId session.usedIds payload =
          .ok (fallbackId (session.usedIds + 1), session.usedIds + 1) := by
        rw [chooseId, hown]
      exact (handlePayload_id session now hchosen).2 reply h
    · have hchosen : chooseId session.usedIds payload = .ok (id, session.usedIds) := by
        rw [chooseId, hown]
      exact (handlePayload_id session now hchosen).2 reply h

lemma answer_of_content (session : Session) {ask : Ask} {spelled : RawJson}
    (h : ask.content = .ok spelled) :
    ask.answer session = session.handleSpelled ask.now spelled := by
  cases ask with
  | payload now value =>
    obtain rfl := Except.ok.inj h
    rfl
  | line now text =>
    have hparse : Json.parseChars (.within now.lineRoom) text.toList = .ok spelled := h
    simp only [Ask.answer, Ask.now, Session.handleLine, hparse]

/-- A line beyond the limits leaves no trace. -/
lemma answer_of_beyond (session : Session) {ask : Ask} {refusal : Json.Refusal}
    (h : ask.content = .error (.refused refusal)) :
    ask.answer session = (session, .error (.json refusal)) := by
  cases ask with
  | payload now value => cases h
  | line now text =>
    have hparse : Json.parseChars (.within now.lineRoom) text.toList =
        .error (.refused refusal) := h
    simp only [Ask.answer, Session.handleLine, hparse]

/-- A line that is no JSON takes the next number. -/
lemma answer_of_notJson (session : Session) {ask : Ask} (h : ask.content = .error .notJson) :
    (ask.answer session).1.usedIds = session.usedIds + 1 ∧
      ∀ reply, (ask.answer session).2 = .ok reply →
        reply.requestId = fallbackId (session.usedIds + 1) := by
  cases ask with
  | payload now value => cases h
  | line now text =>
    have hparse : Json.parseChars (.within now.lineRoom) text.toList = .error .notJson := h
    simp only [Ask.answer, Session.handleLine, hparse]
    refine ⟨usedIds_audit _ _ _ _ _ _, fun reply hreply => ?_⟩
    rw [reply_of_audit _ _ _ _ _ _ _ hreply]
    rfl

lemma usedIds_ask (session : Session) (ask : Ask) :
    (ask.answer session).1.usedIds = session.usedIds + countWithoutId [ask] := by
  have hcount : countWithoutId [ask] = if ask.takesNumber then 1 else 0 := by
    simp [countWithoutId, withoutId_iff, List.countP_cons]
  rw [hcount]
  cases hcontent : ask.content with
  | ok spelled =>
    rw [answer_of_content session hcontent, usedIds_handleSpelled]
    simp only [Ask.takesNumber, hcontent]
    cases spelled.bringsId <;> rfl
  | error e =>
    cases e with
    | notJson =>
      simp only [Ask.takesNumber, hcontent]
      exact (answer_of_notJson session hcontent).1
    | refused refusal =>
      simp only [Ask.takesNumber, hcontent, answer_of_beyond session hcontent]
      rfl

/-- The record of the request repeats nothing beyond the limits of the interpreter. What was read
from a line is never beyond them. -/
def Ask.IsRecordable (session : Session) : Ask → Prop
  | .payload now spelled => ∀ payload request, spelled.toJson? = some payload →
      ReadsAs session payload request → Recordable now request
  | .line _ _ => True

/-- A request whose line and id are within the limits is answered. -/
lemma exists_reply {session : Session} {ask : Ask} (h : LogsWritable session)
    (htexts : ask.InTexts) (hlimits : ∀ refusal, ¬ask.Refused refusal)
    (hrecordable : ask.IsRecordable session) : ∃ reply, (ask.answer session).2 = .ok reply := by
  obtain ⟨place, indexPlace, hlogs⟩ := logsAt_of_writable session h
  cases ask with
  | payload now spelled =>
    obtain ⟨payload, htext⟩ := htexts spelled rfl
    obtain ⟨id, used, hchosen⟩ :
        ∃ id used, chooseId session.usedIds payload = .ok (id, used) := by
      have hown := hasId_payloadId htext
      unfold chooseId
      generalize payloadId payload = own at hown
      cases hown with
      | anonymous => exact ⟨_, _, rfl⟩
      | own => exact ⟨_, _, rfl⟩
      | long fields i hid hlong =>
        exact absurd (Or.inr ⟨rfl, fields, i, rfl, hid, hlong⟩) (hlimits .longNumber)
    obtain ⟨_, reply, _, hanswer, _⟩ := handlePayload_of_logsAt hlogs now hchosen fun request =>
      hrecordable payload request htext
    refine ⟨reply, ?_⟩
    rw [Ask.answer, handleSpelled_of_toJson? session now htext, hanswer]
  | line now text =>
    have haccepted : Accepted now text := by
      intro refusal hrefused
      cases hcontent : (Ask.line now text).content with
      | ok spelled =>
        obtain ⟨payload, htext⟩ := htexts spelled hcontent
        cases (parse_eq_ok hcontent htext).symm.trans hrefused
      | error e =>
        obtain rfl := Except.error.inj ((parse_eq_error hcontent).symm.trans hrefused)
        exact hlimits refusal (Or.inl hcontent)
    obtain ⟨_, reply, _, hanswer, _⟩ := handleLine_of_logsAt hlogs now haccepted
    exact ⟨reply, congrArg Prod.snd hanswer⟩

lemma audit_of_refused (session : Session) {now : Moment} (tool : String) {given : Fields}
    (arguments : Fields) (reply : Reply) {refusal : Json.Refusal}
    (h : given.refusal? (.within now.logRoom) = some refusal) :
    (session.audit now tool given arguments reply).2 = .error (.json refusal) := by
  unfold Session.audit Journal.append
  dsimp only
  rw [h]

/-- A request whose record would repeat something beyond the limits gets no reply. -/
lemma not_answered_of_not_recordable {session : Session} {ask : Ask}
    (h : ¬ask.IsRecordable session) : ∃ fault, (ask.answer session).2 = .error fault := by
  cases ask with
  | line now text => exact absurd trivial h
  | payload now spelled =>
    simp only [Ask.IsRecordable, not_forall] at h
    obtain ⟨payload, request, htext, ⟨id, used, hid, hread⟩, hgiven⟩ := h
    obtain ⟨refusal, hrefusal⟩ := Option.ne_none_iff_exists'.mp hgiven
    refine ⟨.json refusal, ?_⟩
    simp only [Ask.answer, handleSpelled_of_toJson? session now htext, Session.handlePayload, hid,
      hread]
    exact audit_of_refused _ _ _ _ hrefusal

/-! ### Runs -/

/-- A request, with the session that it finds. -/
structure Turn where
  found : Session
  ask : Ask

/-- The request is answered by this reply. -/
def Turn.Sends (turn : Turn) (reply : Reply) : Prop :=
  (turn.ask.answer turn.found).2 = .ok reply

/-- The reply to the request has this id, and there is one if the journals can be written to and the
record can be written. -/
structure Turn.AnsweredUnder (turn : Turn) (id : String) : Prop where
  underId : ∀ reply, turn.Sends reply → reply.requestId = id
  replies : LogsWritable turn.found → turn.ask.InTexts → turn.ask.IsRecordable turn.found →
    ∃ reply, turn.Sends reply
  unrecorded : ¬turn.ask.IsRecordable turn.found → ∀ reply, ¬turn.Sends reply

/-- The request is not answered, and the server is as it was. -/
def Turn.PassedOver (turn : Turn) (refusal : Json.Refusal) : Prop :=
  turn.ask.answer turn.found = (turn.found, .error (.json refusal))

/-- What becomes of a request, if this is the next number. -/
structure Turn.Settled (turn : Turn) (number : Nat) : Prop where
  numbered : turn.ask.WithoutId → turn.AnsweredUnder (fallbackId number)
  own : ∀ id, turn.ask.Brings id → (∀ refusal, ¬turn.ask.Refused refusal) → turn.AnsweredUnder id
  refused : ∀ refusal, turn.ask.Refused refusal → turn.ask.InTexts → turn.PassedOver refusal
  oneOfThese : turn.ask.InTexts →
    turn.ask.WithoutId ∨ (∃ id, turn.ask.Brings id) ∨ ∃ refusal, turn.ask.Refused refusal

/-- The request may leave the server like this. Of a request with half a surrogate pair in it no
more is known than how many numbers it uses. -/
structure Ask.Leaves (ask : Ask) (session next : Session) : Prop where
  numbers : next.usedIds = (ask.answer session).1.usedIds
  texts : ask.InTexts → next = (ask.answer session).1

/-- A server answers requests one after the other. In between it may be told to build its index, and
others may change the disk. -/
inductive Served : Session → List Turn → Session → Prop
  | done (session : Session) : Served session [] session
  | ask {session next after : Session} {turns : List Turn} (ask : Ask)
      (hnext : ask.Leaves session next) (h : Served next turns after) :
      Served session (⟨session, ask⟩ :: turns) after
  | build {session after : Session} {turns : List Turn} (now : Moment)
      (h : Served (session.build now).1 turns after) : Served session turns after
  | change {session after : Session} {turns : List Turn} (disk : Disk)
      (h : Served { session with disk := disk } turns after) : Served session turns after

/-- Every list of requests can be put to a server. -/
lemma exists_served (session : Session) (asks : List Ask) :
    ∃ turns after, Served session turns after ∧ turns.map Turn.ask = asks := by
  induction asks generalizing session with
  | nil => exact ⟨[], session, .done session, rfl⟩
  | cons ask asks ih =>
    obtain ⟨turns, after, hserved, hasks⟩ := ih (ask.answer session).1
    exact ⟨⟨session, ask⟩ :: turns, after, .ask ask ⟨rfl, fun _ => rfl⟩ hserved,
      by rw [List.map_cons, hasks]⟩

lemma countWithoutId_cons (ask : Ask) (asks : List Ask) :
    countWithoutId (ask :: asks) = countWithoutId [ask] + countWithoutId asks := by
  rw [← List.singleton_append, countWithoutId, List.countP_append]
  rfl

section Served

variable {session after : Session} {turns : List Turn}

/-- A run up to one of its requests is a run. -/
lemma served_take {earlier later : List Turn} {turn : Turn} (h : Served session turns after)
    (hturns : turns = earlier ++ turn :: later) : Served session earlier turn.found := by
  induction h generalizing earlier with
  | done => simp at hturns
  | @ask session next after turns ask hnext h ih =>
    cases earlier with
    | nil =>
      obtain ⟨rfl, _⟩ := List.cons.inj hturns
      exact .done session
    | cons first earlier =>
      obtain ⟨rfl, hrest⟩ := List.cons.inj hturns
      exact .ask ask hnext (ih hrest)
  | build now h ih => exact .build now (ih hturns)
  | change disk h ih => exact .change disk (ih hturns)

/-- A run uses one number for each request without an id. -/
lemma usedIds_served (h : Served session turns after) :
    after.usedIds = session.usedIds + countWithoutId (turns.map Turn.ask) := by
  induction h with
  | done => rfl
  | @ask _ _ _ turns ask hnext h ih =>
    rw [ih, hnext.numbers, usedIds_ask, List.map_cons, countWithoutId_cons ask (turns.map Turn.ask),
      Nat.add_assoc]
  | build now h ih => rw [ih, usedIds_build]
  | change disk h ih => exact ih

lemma usedIds_le_of_mem (h : Served session turns after) {turn : Turn} (hmem : turn ∈ turns) :
    session.usedIds ≤ turn.found.usedIds := by
  obtain ⟨earlier, later, hturns⟩ := List.append_of_mem hmem
  rw [usedIds_served (served_take h hturns)]
  exact Nat.le_add_right _ _

lemma requestId_of_withoutId {turn : Turn} (h : turn.ask.WithoutId) {reply : Reply}
    (hreply : turn.Sends reply) : reply.requestId = fallbackId (turn.found.usedIds + 1) := by
  rcases h with hnot | ⟨spelled, hcontent, hanonymous⟩
  · exact (answer_of_notJson turn.found hnot).2 reply hreply
  · rw [Turn.Sends, answer_of_content turn.found hcontent] at hreply
    obtain ⟨own, hown, hnumbered, -⟩ := requestId_handleSpelled hreply
    exact hnumbered (hasId_anonymous hown hanonymous)

lemma requestId_of_brings {turn : Turn} {id : String} (h : turn.ask.Brings id)
    (hlimits : ∀ refusal, ¬turn.ask.Refused refusal) {reply : Reply} (hreply : turn.Sends reply) :
    reply.requestId = id := by
  obtain ⟨fields, value, hcontent, hvalue, hid⟩ := h
  rw [Turn.Sends, answer_of_content turn.found hcontent] at hreply
  obtain ⟨own, hown, -, hreplied⟩ := requestId_handleSpelled hreply
  refine hreplied id (hasId_own hown hvalue hid ?_)
  rintro i rfl hlong
  exact hlimits .longNumber (Or.inr ⟨rfl, fields, i, hcontent, hvalue, hlong⟩)

/-- Two requests without an id are not answered under the same. -/
lemma pairwise_requestId (h : Served session turns after) :
    turns.Pairwise fun turn other => turn.ask.WithoutId → other.ask.WithoutId →
      ∀ reply sent, turn.Sends reply → other.Sends sent → reply.requestId ≠ sent.requestId := by
  induction h with
  | done => exact .nil
  | @ask session next after turns ask hnext h ih =>
    refine .cons ?_ ih
    intro other hother hturn hwithout reply sent hreply hsent hsame
    have hfound := usedIds_le_of_mem h hother
    rw [hnext.numbers, usedIds_ask] at hfound
    have hone : countWithoutId [ask] = 1 := by simp [countWithoutId, hturn]
    rw [requestId_of_withoutId hturn hreply, requestId_of_withoutId hwithout hsent] at hsame
    have hnumbers : session.usedIds + 1 = other.found.usedIds + 1 := fallbackId_injective hsame
    omega
  | build now h ih => exact ih
  | change disk h ih => exact ih

end Served

/-! ### One request of a run -/

lemma not_refused_of_withoutId {ask : Ask} (h : ask.WithoutId) (refusal : Json.Refusal) :
    ¬ask.Refused refusal := by
  rintro (hcontent | ⟨-, fields, i, hcontent, hvalue, -⟩)
  · rcases h with hnot | ⟨spelled, hspelled, -⟩
    · cases hnot.symm.trans hcontent
    · cases hspelled.symm.trans hcontent
  · rcases h with hnot | ⟨spelled, hspelled, hanonymous⟩
    · cases hnot.symm.trans hcontent
    · obtain rfl := Except.ok.inj (hspelled.symm.trans hcontent)
      rw [anonymous_iff, bringsId_of_isId hvalue (.whole i)] at hanonymous
      cases hanonymous

lemma answeredUnder_of_id {turn : Turn} (hlimits : ∀ refusal, ¬turn.ask.Refused refusal)
    {id : String} (hid : ∀ reply, turn.Sends reply → reply.requestId = id) :
    turn.AnsweredUnder id := by
  refine ⟨hid, fun hlogs htexts hrecordable => exists_reply hlogs htexts hlimits hrecordable,
    fun hunrecorded reply hreply => ?_⟩
  obtain ⟨fault, hfault⟩ := not_answered_of_not_recordable hunrecorded
  cases hfault.symm.trans hreply

/-- A request whose line or id is beyond the limits leaves no trace. -/
lemma passedOver_of_refused {turn : Turn} {refusal : Json.Refusal} (h : turn.ask.Refused refusal)
    (htexts : turn.ask.InTexts) : turn.PassedOver refusal := by
  rcases h with hcontent | ⟨rfl, fields, i, hcontent, hvalue, hlong⟩
  · exact answer_of_beyond turn.found hcontent
  · obtain ⟨payload, htext⟩ := htexts _ hcontent
    rw [Turn.PassedOver, answer_of_content turn.found hcontent, handleSpelled_of_toJson? _ _ htext]
    refine handlePayload_of_refused _ _ ?_
    rw [chooseId, hasId_long (hasId_payloadId htext) hvalue hlong]

lemma settled_of_usedIds {turn : Turn} {number : Nat} (h : turn.found.usedIds + 1 = number) :
    turn.Settled number where
  numbered hwithout := answeredUnder_of_id (not_refused_of_withoutId hwithout) fun reply hreply =>
    h ▸ requestId_of_withoutId hwithout hreply
  own id hbrings hlimits := answeredUnder_of_id hlimits fun reply hreply =>
    requestId_of_brings hbrings hlimits hreply
  refused refusal hrefused htexts := passedOver_of_refused hrefused htexts
  oneOfThese htexts := by
    cases hcontent : turn.ask.content with
    | error e =>
      cases e with
      | notJson => exact Or.inl (Or.inl hcontent)
      | refused refusal => exact Or.inr (Or.inr ⟨refusal, Or.inl hcontent⟩)
    | ok spelled =>
      obtain ⟨payload, htext⟩ := htexts spelled hcontent
      have hown := hasId_payloadId htext
      generalize payloadId payload = own at hown
      cases hown with
      | anonymous _ hanonymous => exact Or.inl (Or.inr ⟨spelled, hcontent, hanonymous⟩)
      | own fields value id hvalue hid =>
        exact Or.inr (Or.inl ⟨id, fields, value, hcontent, hvalue, hid⟩)
      | long fields i hvalue hlong =>
        exact Or.inr (Or.inr ⟨.longNumber, Or.inr ⟨rfl, fields, i, hcontent, hvalue, hlong⟩⟩)

/-- A text that is no JSON, two requests with an id, a value that is no object, half a surrogate
pair, and an id that is no id. -/
def mixedAsks : List Ask :=
  [.line sampleMoment "no json", .payload sampleMoment (Json.object [("id", .str "edit")]).raw,
   .line sampleMoment "\x7b\"id\": -7, \"method\": \"ink.status\"\x7d",
   .line sampleMoment "[1.5]", .line sampleMoment "\x7b\"method\": \"\\ud800\"\x7d",
   .payload sampleMoment (Json.object [("id", .bool true)]).raw]

lemma lt_length_digitsOf_pow {n : Nat} (hn : 0 < n) :
    n < (Json.digitsOf (10 ^ n)).length := by
  have hpow : (10 ^ n : Int).natAbs = 10 ^ n := by rw [Int.natAbs_pow]; rfl
  rw [Json.digitsOf, hpow, ← not_le, Nat.length_toDigits_le_iff (by decide) hn]
  exact lt_irrefl _

lemma handleLine_of_deep (session : Session) {now : Moment} {count : Nat}
    (h : now.lineRoom < count) :
    session.handleLine now (String.ofList (List.replicate count '[')) =
      (session, .error (.json .tooDeep)) := by
  have hchars : Json.parseChars (.within now.lineRoom) (List.replicate count '[') =
      .error (.refused .tooDeep) := parseChars_replicate h
  simp only [Session.handleLine, String.toList_ofList, hchars]

/-- A request with a number as its id. -/
def numberedRequest (id : Int) : Json :=
  .obj [("id", .int id), ("method", .str "ink.status")]

lemma handlePayload_of_isLong (session : Session) (now : Moment) {id : Int} (h : IsLong id) :
    session.handlePayload now (numberedRequest id) = (session, .error (.json .longNumber)) := by
  have hid : payloadId (numberedRequest id) = .error .longNumber := by
    have hlong : Json.maxDigits < (Json.digitsOf id).length := h
    exact if_pos hlong
  refine handlePayload_of_refused session now ?_
  rw [chooseId, hid]

end StoryAtlas.Proofs
