import Mathlib.Data.List.Basic
import StoryAtlas.Proofs.HandledRequests

/-!
# Requests that are refused

A request that is refused leaves the index as it was, with two exceptions. An update and a build
change the index first and report the change to the journal of the index afterwards; and the size of
a reply is known only once its tool has run. So a refusal for one of these two reasons can come
after the change. The index is then what the request makes of it.
-/

namespace StoryAtlas.Proofs
open StoryAtlas.Disk

/-- A tool has passed its checks and has changed the index. What follows is the event that it
reports, and then the result with which it answers. -/
inductive Changes (session : Session) (now : Moment) :
    Tool → Fields → Session → Event → Fields → Prop
  | update (arguments : Fields) (p : Path) (text : String)
      (hpath : session.pathFor .update arguments = .ok p)
      (htext : textArgument arguments = .ok text)
      (hsize : checkTextSize session.config.limits.maxFileBytes text = .ok ()) :
      Changes session now .update arguments
        { session with index := (session.index.update p text).1 }
        (Index.updateEvent (session.index.update p text).2)
        (session.updateResult (session.index.update p text).2)
  | build (arguments : Fields) (found : Discovery) (harvest : Harvest) (disk : Disk)
      (hfound : discover session.disk session.config.filter session.config.projectRoot = .ok found)
      (hgather : session.index.gather session.disk session.config.limits.maxFileBytes found.paths =
        .ok harvest)
      (hnoted : session.emitAll now harvest.failureEvents =
        ({ session with disk := disk }, .ok ())) :
      Changes session now .buildIndex arguments
        { session with index := session.index.merge harvest.loaded now.timestamp, disk := disk }
        (harvest.buildEvent now.buildMs)
        (session.buildResult (harvest.report now.timestamp now.buildMs))

/-- The end of a tool that has changed the index: the change is reported, and only if that succeeds
is there a result. -/
inductive Reports (changed : Session) (now : Moment) (event : Event) (result : Fields) :
    Session × Except ToolFailure Fields → Prop
  | failed (fault : Fault) (hemit : changed.emit now event = .error fault) :
      Reports changed now event result (changed, .error (.disk fault))
  | done (disk : Disk) (hemit : changed.emit now event = .ok { changed with disk := disk }) :
      Reports changed now event result ({ changed with disk := disk }, .ok result)

/-! ### Tools -/

lemma emit_cases (session : Session) (now : Moment) (event : Event) :
    (∃ fault, session.emit now event = .error fault) ∨
      ∃ disk, session.emit now event = .ok { session with disk := disk } := by
  unfold Session.emit
  split
  · next fault _ => exact Or.inl ⟨fault, rfl⟩
  · next disk _ => exact Or.inr ⟨disk, rfl⟩

lemma emitAll_fst (session : Session) (now : Moment) (events : List Event) :
    ∃ disk, (session.emitAll now events).1 = { session with disk := disk } := by
  induction events generalizing session with
  | nil => exact ⟨session.disk, rfl⟩
  | cons event events ih =>
    unfold Session.emitAll
    rcases emit_cases session now event with ⟨fault, hemit⟩ | ⟨disk, hemit⟩
    · rw [hemit]
      exact ⟨session.disk, rfl⟩
    · rw [hemit]
      exact ih { session with disk := disk }

/-- A run of a tool has left the index alone, or has changed it and come to the report. -/
def RunsTo (session : Session) (now : Moment) (tool : Tool) (arguments : Fields)
    (after : Session × Except ToolFailure Fields) : Prop :=
  (∃ disk, after.1 = { session with disk := disk }) ∨
    ∃ changed event result, Changes session now tool arguments changed event result ∧
      Reports changed now event result after

lemma runUpdate_runsTo (session : Session) (now : Moment) (arguments : Fields) :
    RunsTo session now .update arguments (session.runUpdate now arguments) := by
  unfold Session.runUpdate
  split
  · exact Or.inl ⟨session.disk, rfl⟩
  next p hpath =>
  split
  · exact Or.inl ⟨session.disk, rfl⟩
  next text htext =>
  split
  · exact Or.inl ⟨session.disk, rfl⟩
  next hsize =>
  refine Or.inr ⟨_, _, _, .update arguments p text hpath htext hsize, ?_⟩
  unfold Session.update
  dsimp only
  rcases emit_cases { session with index := (session.index.update p text).1 } now
    (Index.updateEvent (session.index.update p text).2) with ⟨fault, hemit⟩ | ⟨disk, hemit⟩
  · rw [hemit]
    exact .failed fault hemit
  · rw [hemit]
    exact .done disk hemit

lemma runBuild_runsTo (session : Session) (now : Moment) (arguments : Fields) :
    RunsTo session now .buildIndex arguments (session.runBuild now) := by
  unfold Session.runBuild Session.build
  cases hfound : discover session.disk session.config.filter session.config.projectRoot with
  | error fault => exact Or.inl ⟨session.disk, rfl⟩
  | ok found =>
    dsimp only
    cases hgather : session.index.gather session.disk session.config.limits.maxFileBytes
        found.paths with
    | error fault => exact Or.inl ⟨session.disk, rfl⟩
    | ok harvest =>
      obtain ⟨disk, hdisk⟩ := emitAll_fst session now harvest.failureEvents
      unfold Session.commit
      dsimp only
      rcases hnoted : session.emitAll now harvest.failureEvents with ⟨noted, fault | _⟩
      · rw [hnoted] at hdisk
        exact Or.inl ⟨disk, hdisk⟩
      · rw [hnoted] at hdisk
        obtain rfl : noted = { session with disk := disk } := hdisk
        refine Or.inr ⟨_, _, _, .build arguments found harvest disk hfound hgather hnoted, ?_⟩
        dsimp only
        have hcases := emit_cases
          { session with index := session.index.merge harvest.loaded now.timestamp, disk := disk }
          now (harvest.buildEvent now.buildMs)
        rcases hcases with ⟨fault, hemit⟩ | ⟨after, hemit⟩
        · rw [hemit]
          exact .failed fault hemit
        · rw [hemit]
          exact .done after hemit

lemma run_runsTo (session : Session) (now : Moment) (tool : Tool) (arguments : Fields) :
    RunsTo session now tool arguments (session.run now tool arguments) := by
  cases tool with
  | buildIndex => exact runBuild_runsTo session now arguments
  | update => exact runUpdate_runsTo session now arguments
  | status | outline | includeScope | complete | definition | auditLog =>
    exact Or.inl ⟨session.disk, rfl⟩

/-! ### Replies -/

/-- The reply to a request whose tool has changed the index refuses it: the change could not be
reported, or the result is too large to be sent. -/
def RefusedLate (changed : Session) (now : Moment) (event : Event) (result : Fields) (id : String)
    (reply : Reply) : Prop :=
  (∃ fault, changed.emit now event = .error fault ∧ reply = (ToolFailure.disk fault).reply id) ∨
    (∃ noted, changed.emit now event = .ok noted) ∧
      changed.config.limits.maxResponseBytes <
        ((Reply.success id (splitWarnings result).2 (splitWarnings result).1).size : Int) ∧
      reply = (ToolFailure.policy .responseTooLarge).reply id

lemma replyWith_refused (session : Session) (id : String) (result : Fields)
    (h : (session.replyWith id result).ok = false) :
    session.config.limits.maxResponseBytes <
        ((Reply.success id (splitWarnings result).2 (splitWarnings result).1).size : Int) ∧
      session.replyWith id result = (ToolFailure.policy .responseTooLarge).reply id := by
  unfold Session.replyWith at h ⊢
  dsimp only at h ⊢
  split_ifs at h ⊢ with hsize
  · exact ⟨hsize, rfl⟩
  · cases h

lemma answer_refused (session : Session) (now : Moment) (request : Request)
    (h : (session.answer now request).2.ok = false) :
    (session.answer now request).1.index = session.index ∨
      ∃ tool changed event result, Tool.all.get? request.tool = some tool ∧
        Changes session now tool request.arguments changed event result ∧
        (session.answer now request).1.index = changed.index ∧
        RefusedLate changed now event result request.id (session.answer now request).2 := by
  unfold Session.answer at h ⊢
  cases htool : Tool.all.get? request.tool with
  | none => exact Or.inl rfl
  | some tool =>
    rw [htool] at h
    dsimp only at h ⊢
    rcases run_runsTo session now tool request.arguments with ⟨disk, hrun⟩ |
      ⟨changed, event, result, hchanges, hreports⟩
    · left
      have hindex : (session.run now tool request.arguments).1.index = session.index := by rw [hrun]
      split
      · next after result hafter => rwa [hafter] at hindex
      · next after failure hafter => rwa [hafter] at hindex
    · right
      refine ⟨tool, changed, event, result, rfl, hchanges, ?_⟩
      generalize session.run now tool request.arguments = after at h hreports ⊢
      cases hreports with
      | failed fault hemit => exact ⟨rfl, Or.inl ⟨fault, hemit, rfl⟩⟩
      | done disk hemit =>
        obtain ⟨hsize, hreply⟩ := replyWith_refused _ request.id result h
        exact ⟨rfl, Or.inr ⟨⟨_, hemit⟩, hsize, hreply⟩⟩

lemma index_audit (session : Session) (now : Moment) (tool : String) (given arguments : Fields)
    (reply : Reply) : (session.audit now tool given arguments reply).1.index = session.index := by
  unfold Session.audit
  dsimp only
  split <;> rfl

lemma reply_of_audit (session : Session) (now : Moment) (tool : String) (given arguments : Fields)
    (reply sent : Reply) (h : (session.audit now tool given arguments reply).2 = .ok sent) :
    sent = reply := by
  unfold Session.audit at h
  dsimp only at h
  split at h
  · cases h
  · exact (Except.ok.inj h).symm

/-- A refused request leaves the index as it was, or it was refused after its tool had changed the
index, and then the index is what the tool has made of it. -/
theorem refused_keeps_index (session : Session) (now : Moment) (payload : Json) (reply : Reply)
    (h : (session.handlePayload now payload).2 = .ok reply) (hrefused : reply.ok = false) :
    (session.handlePayload now payload).1.index = session.index ∨
      ∃ id used request tool changed event result,
        chooseId session.usedIds payload = .ok (id, used) ∧
        Request.read id payload = .ok request ∧
        Tool.all.get? request.tool = some tool ∧
        Changes { session with usedIds := used } now tool request.arguments changed event result ∧
        (session.handlePayload now payload).1.index = changed.index ∧
        RefusedLate changed now event result request.id reply := by
  have hhandled := handled_handlePayload session now payload
  generalize session.handlePayload now payload = after at h hhandled ⊢
  cases hhandled with
  | refused refusal hid => exact Or.inl rfl
  | malformed id used error hid hread => exact Or.inl (index_audit _ _ _ _ _ _)
  | answered id used request hid hread =>
    rw [index_audit]
    obtain rfl := reply_of_audit _ now _ _ _ _ reply h
    rcases answer_refused _ now request hrefused with hkept | hlate
    · exact Or.inl hkept
    · obtain ⟨tool, changed, event, result, htool, hchanges, hindex, hreply⟩ := hlate
      exact Or.inr ⟨id, used, request, tool, changed, event, result, hid, hread, htool, hchanges,
        hindex, hreply⟩

/-! ### A refusal that comes late -/

/-- A server that sends no reply of more than ten bytes. -/
def narrowConfig : Config :=
  { Config.default ⟨.root, ["proj"]⟩ with limits := { Limits.default with maxResponseBytes := 10 } }

def emptyProject : Disk where
  tree := .dir [("proj", .dir [])]
  cwd := ⟨.root, ["proj"]⟩
  linkRoom := 900

def updateMain : Json :=
  .object [("id", .str "edit"), ("method", .str "ink.update"),
    ("params", .object [("path", .str "main.ink"), ("text", .str "")])]

lemma narrow_update : (Session.start narrowConfig emptyProject).toOption.map (fun session =>
    ((session.handlePayload sampleMoment updateMain).2.toOption.map Reply.ok,
      (session.handlePayload sampleMoment updateMain).1.index.files.length,
      session.index.files.length)) =
    some (some false, 1, 0) := by
  decide +kernel

lemma exists_narrow_update : ∃ session reply,
    Session.start narrowConfig emptyProject = .ok session ∧
    (session.handlePayload sampleMoment updateMain).2 = .ok reply ∧ reply.ok = false ∧
    (session.handlePayload sampleMoment updateMain).1.index ≠ session.index := by
  have hupdate := narrow_update
  cases hstart : Session.start narrowConfig emptyProject with
  | error e => simp [hstart, Except.toOption] at hupdate
  | ok session =>
    cases hreply : (session.handlePayload sampleMoment updateMain).2 with
    | error fault => simp [hstart, hreply, Except.toOption] at hupdate
    | ok reply =>
      simp only [hstart, hreply, Except.toOption, Option.map_some, Option.some.injEq,
        Prod.mk.injEq] at hupdate
      obtain ⟨hok, hafter, hbefore⟩ := hupdate
      refine ⟨session, reply, rfl, hreply, hok, ?_⟩
      intro hsame
      rw [hsame, hbefore] at hafter
      cases hafter

theorem refused_keeps_index_narrow : ∃ session reply,
    Session.start narrowConfig emptyProject = .ok session ∧
    (session.handlePayload sampleMoment updateMain).2 = .ok reply ∧ reply.ok = false ∧
    ∃ id used request tool changed event result,
      chooseId session.usedIds updateMain = .ok (id, used) ∧
      Request.read id updateMain = .ok request ∧
      Tool.all.get? request.tool = some tool ∧
      Changes { session with usedIds := used } sampleMoment tool request.arguments changed event
        result ∧
      (session.handlePayload sampleMoment updateMain).1.index = changed.index ∧
      RefusedLate changed sampleMoment event result request.id reply := by
  obtain ⟨session, reply, hstart, hreply, hrefused, hindex⟩ := exists_narrow_update
  refine ⟨session, reply, hstart, hreply, hrefused, ?_⟩
  exact (refused_keeps_index session sampleMoment updateMain reply hreply hrefused).resolve_left
    hindex

/-- Not every refused request leaves the index as it was. -/
theorem refusal_after_change : ¬∀ config disk session now payload reply,
    Session.start config disk = .ok session → (session.handlePayload now payload).2 = .ok reply →
      reply.ok = false → (session.handlePayload now payload).1.index = session.index := by
  intro hkept
  obtain ⟨session, reply, hstart, hreply, hrefused, hindex⟩ := exists_narrow_update
  exact hindex
    (hkept narrowConfig emptyProject session sampleMoment updateMain reply hstart hreply hrefused)

end StoryAtlas.Proofs
