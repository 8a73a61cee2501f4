import StoryAtlas.Proofs.OverlongPaths
import StoryAtlas.Proofs.ReadyServers

/-!
# Every request ends in a result or in a typed error

A server whose journals can be opened, on a disk without circles of links, answers every request
whose numbers are not too long. No argument of a tool, of whatever shape, stops the tool in any
other way than with one of the documented errors, with two exceptions: a path that looks like a
drive, if it is overlong, and a path over links that lie too deep within each other. Such links on
the way to the project root stop a build as well. A journal with too many brackets cannot be shown.
-/

namespace StoryAtlas.Proofs
open StoryAtlas.Disk StoryAtlas.Story Relation

/-! ### Tools -/

/-- The outcome is a fault of the disk only if `P`. -/
def FaultOnlyIf (P : Prop) {α : Type} (outcome : Except ToolFailure α) : Prop :=
  ∀ fault, outcome = .error (.disk fault) → P

section Outcomes

variable {P : Prop} {α β : Type}

lemma faultOnlyIf_ok (value : α) : FaultOnlyIf P (.ok value) := by
  intro fault h
  cases h

lemma faultOnlyIf_bind {outcome : Except ToolFailure α} {next : α → Except ToolFailure β}
    (h : FaultOnlyIf P outcome) (hnext : ∀ value, FaultOnlyIf P (next value)) :
    FaultOnlyIf P (outcome.bind next) := by
  intro fault hfault
  cases outcome with
  | error failure =>
    obtain rfl := Except.error.inj hfault
    exact h fault rfl
  | ok value => exact hnext value fault hfault

variable (tool : Tool) (arguments : Fields)

lemma faultOnlyIf_line : FaultOnlyIf P (lineArgument tool arguments) := by
  intro fault h
  unfold lineArgument at h
  split at h
  · split_ifs at h
    cases h
  · cases h

lemma faultOnlyIf_text : FaultOnlyIf P (textArgument arguments) := by
  intro fault h
  unfold textArgument at h
  split at h <;> cases h

lemma faultOnlyIf_trigger : FaultOnlyIf P (triggerArgument arguments) := by
  intro fault h
  unfold triggerArgument at h
  split at h <;> cases h

lemma faultOnlyIf_name : FaultOnlyIf P (nameArgument arguments) := by
  intro fault h
  unfold nameArgument at h
  split at h
  · split at h <;> cases h
  · split_ifs at h
    cases h
  · cases h

end Outcomes

section Asked

variable (session : Session) (arguments : Fields)

lemma askOutline_eq_bind : session.askOutline arguments =
    (session.pathFor .outline arguments).bind fun p =>
      match session.index.get? p with
      | none => .error (.tool (.notIndexed (session.display p)))
      | some file => .ok (session.outlineResult file) := by
  unfold Session.askOutline
  cases session.pathFor .outline arguments <;> rfl

lemma askScope_eq_bind : session.askScope arguments =
    (session.pathFor .includeScope arguments).bind fun p => .ok (session.scopeResult p) := by
  unfold Session.askScope
  cases session.pathFor .includeScope arguments <;> rfl

lemma askCompletions_eq_bind : session.askCompletions arguments =
    (session.pathFor .complete arguments).bind fun p =>
      (lineArgument .complete arguments).bind fun line =>
        (triggerArgument arguments).bind fun before =>
          .ok (session.completeResult p line before) := by
  unfold Session.askCompletions
  cases session.pathFor .complete arguments with
  | error failure => rfl
  | ok p =>
    cases lineArgument .complete arguments with
    | error failure => rfl
    | ok line => cases triggerArgument arguments <;> rfl

lemma askDefinition_eq_bind : session.askDefinition arguments =
    (session.pathFor .definition arguments).bind fun p =>
      (lineArgument .definition arguments).bind fun line =>
        (nameArgument arguments).bind fun name =>
          .ok (session.definitionResult p line name) := by
  unfold Session.askDefinition
  cases session.pathFor .definition arguments with
  | error failure => rfl
  | ok p =>
    cases lineArgument .definition arguments with
    | error failure => rfl
    | ok line => cases nameArgument arguments <;> rfl

end Asked

/-- The tool looks at the path among its arguments. -/
def LooksAtPath (tool : Tool) : Prop :=
  tool ∈ [.update, .outline, .includeScope, .complete, .definition]

/-- What stops a tool by a fault: a path that is overlong, or links that are too deep on the way of
a path or of the project root. -/
inductive Stops (session : Session) (arguments : Fields) : Tool → Prop
  | overlong {tool : Tool} (htool : LooksAtPath tool)
      (h : AsksOverlong session.disk arguments) : Stops session arguments tool
  | links {tool : Tool} (htool : LooksAtPath tool) (h : AsksTooDeep session arguments) :
      Stops session arguments tool
  | root (h : LinksTooDeep session.disk session.config.projectRoot) :
      Stops session arguments .buildIndex

section Ready

variable {session : Session} {now : Moment} (hready : Ready session now.logRoom)

include hready

lemma runBuild_fault : FaultOnlyIf (LinksTooDeep session.disk session.config.projectRoot)
    (session.runBuild now).2 := by
  intro fault h
  obtain ⟨root, hroot⟩ | hdeep := root_resolved_or_tooDeep hready
  swap
  · exact hdeep
  obtain ⟨report, hreport⟩ := build_ok hready hroot now
  unfold Session.runBuild at h
  split at h
  · cases h
  · next after failed hbuild =>
    rw [hbuild] at hreport
    cases hreport

lemma askAuditLog_fault (arguments : Fields) :
    FaultOnlyIf (HasDeepLog session now.logRoom) (session.askAuditLog now arguments) := by
  intro fault h
  rcases askAuditLog_ok hready.logs arguments with ⟨result, hresult⟩ | hdeep
  · cases hresult.symm.trans h
  · exact hdeep

variable {arguments : Fields}
  (hnul : ∀ candidate, arguments.get? "path" = some (.str candidate) →
    Char.ofNat 0 ∉ candidate.toList)

include hnul

lemma stops_of_pathFor {tool : Tool} (htool : LooksAtPath tool) (asked : Tool) :
    FaultOnlyIf (Stops session arguments tool) (session.pathFor asked arguments) := by
  intro fault h
  rcases pathFor_fault hready hnul h with hlong | hdeep
  · exact .overlong htool hlong
  · exact .links htool hdeep

lemma stops_of_runUpdate :
    FaultOnlyIf (Stops session arguments .update) (session.runUpdate now arguments).2 := by
  intro fault h
  unfold Session.runUpdate at h
  split at h
  · next failure hpath =>
    obtain rfl := Except.error.inj h
    exact stops_of_pathFor hready hnul (by simp [LooksAtPath]) .update fault hpath
  next p _ =>
  split at h
  · next failure htext =>
    obtain rfl := Except.error.inj h
    exact faultOnlyIf_text arguments fault htext
  next text _ =>
  split at h
  · cases h
  split at h
  · cases h
  · next after failed hupdate =>
    obtain ⟨file, hfile⟩ := update_ok hready now p text
    rw [hupdate] at hfile
    cases hfile

/-- A tool fails by a fault only if something stops it, or if it is to show a journal with too many
brackets. -/
theorem stops_of_run (tool : Tool)
    (hshown : tool = .auditLog → ¬HasDeepLog session now.logRoom) :
    FaultOnlyIf (Stops session arguments tool) (session.run now tool arguments).2 := by
  cases tool with
  | status => exact faultOnlyIf_ok _
  | buildIndex => exact fun fault hfault => .root (runBuild_fault hready fault hfault)
  | update => exact stops_of_runUpdate hready hnul
  | auditLog =>
    exact fun fault hfault => absurd (askAuditLog_fault hready _ fault hfault) (hshown rfl)
  | outline =>
    change FaultOnlyIf _ (session.askOutline arguments)
    rw [askOutline_eq_bind]
    refine faultOnlyIf_bind (stops_of_pathFor hready hnul (by simp [LooksAtPath]) .outline)
      fun p fault hfault => ?_
    split at hfault <;> cases hfault
  | includeScope =>
    change FaultOnlyIf _ (session.askScope arguments)
    rw [askScope_eq_bind]
    exact faultOnlyIf_bind (stops_of_pathFor hready hnul (by simp [LooksAtPath]) .includeScope)
      fun p => faultOnlyIf_ok _
  | complete =>
    change FaultOnlyIf _ (session.askCompletions arguments)
    rw [askCompletions_eq_bind]
    refine faultOnlyIf_bind (stops_of_pathFor hready hnul (by simp [LooksAtPath]) .complete)
      fun p => ?_
    refine faultOnlyIf_bind (faultOnlyIf_line .complete arguments) fun line => ?_
    exact faultOnlyIf_bind (faultOnlyIf_trigger arguments) fun before => faultOnlyIf_ok _
  | definition =>
    change FaultOnlyIf _ (session.askDefinition arguments)
    rw [askDefinition_eq_bind]
    refine faultOnlyIf_bind (stops_of_pathFor hready hnul (by simp [LooksAtPath]) .definition)
      fun p => ?_
    refine faultOnlyIf_bind (faultOnlyIf_line .definition arguments) fun line => ?_
    exact faultOnlyIf_bind (faultOnlyIf_name arguments) fun name => faultOnlyIf_ok _

end Ready

/-! ### Replies -/

/-- The codes of the errors that a request can run into by its own fault. -/
def typedCodes : List String :=
  ["INVALID_REQUEST", "INVALID_PARAMS", "UNKNOWN_TOOL", "NOT_INDEXED", "PATH_BLOCKED",
    "POLICY_BLOCKED"]

/-- The reply brings a result, or an error with a typed code. -/
def IsTyped (reply : Reply) : Prop :=
  (reply.ok = true ∧ reply.error = none) ∨
    ∃ error, reply.error = some error ∧ error.code ∈ typedCodes

lemma isTyped_failure (failure : ToolFailure) (id : String)
    (h : ∀ fault, failure ≠ .disk fault) : IsTyped (failure.reply id) := by
  refine Or.inr ?_
  cases failure with
  | path refusal => exact ⟨_, rfl, by simp [typedCodes]⟩
  | policy refusal => exact ⟨_, rfl, by simp [typedCodes]⟩
  | tool error =>
    refine ⟨_, rfl, ?_⟩
    cases error <;> simp [ToolError.code, typedCodes]
  | disk fault => exact absurd rfl (h fault)

lemma isTyped_replyWith (session : Session) (id : String) (result : Fields) :
    IsTyped (session.replyWith id result) := by
  unfold Session.replyWith
  dsimp only
  split_ifs
  · exact isTyped_failure (.policy .responseTooLarge) id (by simp)
  · exact Or.inl ⟨rfl, rfl⟩

/-- The request is for a tool that something stops. -/
def AsksBeyond (session : Session) (request : Request) : Prop :=
  ∃ tool, Tool.all.get? request.tool = some tool ∧ Stops session request.arguments tool

/-- The request is for the journal of requests, which has a line with too many brackets. -/
def AsksDeepLog (session : Session) (now : Moment) (request : Request) : Prop :=
  request.tool = "ink.audit_log" ∧ HasDeepLog session now.logRoom

/-- What stops a tool does not depend on the ids that were used. -/
lemma asksBeyond_numbered {session : Session} {used : Nat} {request : Request}
    (h : AsksBeyond { session with usedIds := used } request) : AsksBeyond session request := by
  obtain ⟨tool, htool, hstops⟩ := h
  refine ⟨tool, htool, ?_⟩
  cases hstops with
  | overlong hlooks h => exact .overlong hlooks h
  | links hlooks h => exact .links hlooks h
  | root h => exact .root h

lemma isTyped_or_internal_answer {session : Session} {now : Moment}
    (hready : Ready session now.logRoom) (request : Request)
    (hnul : ∀ candidate, request.arguments.get? "path" = some (.str candidate) →
      Char.ofNat 0 ∉ candidate.toList) (hshown : ¬AsksDeepLog session now request) :
    IsTyped (session.answer now request).2 ∨
      (session.answer now request).2.error.map ReplyError.code = some "INTERNAL_ERROR" ∧
        AsksBeyond session request := by
  unfold Session.answer
  split
  · exact Or.inl (Or.inr ⟨_, rfl, by simp [Toolbox.unknownCode, typedCodes]⟩)
  next tool htool =>
  have hstops := stops_of_run hready hnul tool <| by
    rintro rfl hdeep
    exact hshown ⟨(get?_all_iff _ _).mp htool, hdeep⟩
  split
  · exact Or.inl (isTyped_replyWith _ _ _)
  · next after failure hrun =>
    rw [hrun] at hstops
    by_cases hdisk : ∃ fault, failure = .disk fault
    · obtain ⟨fault, rfl⟩ := hdisk
      exact Or.inr ⟨rfl, tool, htool, hstops fault rfl⟩
    · exact Or.inl (isTyped_failure failure _ fun fault heq => hdisk ⟨fault, heq⟩)

lemma audit_ok {session : Session} {place : List String} {now : Moment} (tool : String)
    {given : Fields} (arguments : Fields) (reply : Reply)
    (hgiven : given.refusal? (.within now.logRoom) = none)
    (h : FilePlace session.disk session.auditFile place) :
    (session.audit now tool given arguments reply).2 = .ok reply := by
  unfold Session.audit Journal.append
  dsimp only
  rw [hgiven]
  dsimp only
  rw [append_of_filePlace session.disk session.auditFile place _ h]

lemma filePlace_of_notes {session after : Session} {place : List String}
    (h : Notes session after) (hplace : FilePlace session.disk session.auditFile place) :
    FilePlace after.disk after.auditFile place := by
  have hkept : ∀ disk, ReflTransGen (AppendsTo session.indexFile) session.disk disk →
      FilePlace disk session.auditFile place := by
    intro disk hdisk
    induction hdisk with
    | refl => exact hplace
    | tail _ happend ih =>
      exact filePlace_appendsTo (parts_indexFile session) happend (parts_auditFile session) ih
  rw [auditFile_of_config h.config]
  exact hkept _ h.disk

/-- A request that can be read is answered, with what its tool gives. -/
lemma handlePayload_of_read {session : Session} {place : List String} {now : Moment}
    {payload : Json} {id : String} {used : Nat} {request : Request}
    (hid : chooseId session.usedIds payload = .ok (id, used))
    (hread : Request.read id payload = .ok request) (hwidth : payload.width ≤ Json.maxDigits)
    (hplace : FilePlace session.disk session.auditFile place) :
    (session.handlePayload now payload).2 =
      .ok (Session.answer { session with usedIds := used } now request).2 := by
  have hgiven := refusal?_keptArguments now.logRoom (width_arguments hwidth hread)
  have hnotes := answer_notes { session with usedIds := used } now request
  simp only [Session.handlePayload, hid, hread]
  exact audit_ok _ _ _ hgiven (filePlace_of_notes hnotes hplace)

/-- A request for the outline of a file. -/
def outlineRequest (path : String) : Json :=
  .obj [("id", .str "ask"), ("method", .str "ink.outline"), ("params", .obj [("path", .str path)])]

lemma read_outlineRequest (id path : String) : Request.read id (outlineRequest path) =
    .ok ⟨id, "ink.outline", [("path", .str path)]⟩ := by
  rfl

lemma readsAs_outlineRequest {session : Session} {path : String} {request : Request}
    (h : ReadsAs session (outlineRequest path) request) :
    request.tool = "ink.outline" ∧ request.arguments = [("path", .str path)] := by
  obtain ⟨id, _, _, hread⟩ := h
  obtain rfl := Except.ok.inj ((read_outlineRequest id path).symm.trans hread)
  exact ⟨rfl, rfl⟩

lemma nulFree_outlineRequest (session : Session) {path : String}
    (h : Char.ofNat 0 ∉ path.toList) :
    ∀ request candidate, ReadsAs session (outlineRequest path) request →
      request.arguments.get? "path" = some (.str candidate) → Char.ofNat 0 ∉ candidate.toList := by
  intro request candidate hrequest hget
  rw [(readsAs_outlineRequest hrequest).2] at hget
  obtain rfl : path = candidate := by simpa [Fields.get?] using hget
  exact h

lemma not_auditLog_outlineRequest {session : Session} {path : String} {request : Request}
    (h : ReadsAs session (outlineRequest path) request) : request.tool ≠ "ink.audit_log" := by
  rw [(readsAs_outlineRequest h).1]
  decide

lemma get?_outline : Tool.all.get? "ink.outline" = some .outline := by
  decide

lemma asks_of_path {P : String → Prop} {path : String}
    (h : ∃ candidate, Fields.get? [("path", .str path)] "path" = some (.str candidate) ∧
      P candidate) : P path := by
  obtain ⟨candidate, hget, hcandidate⟩ := h
  obtain rfl : path = candidate := by simpa [Fields.get?] using hget
  exact hcandidate

lemma not_isOverlong_l0 (disk : Disk) : ¬IsOverlong disk "l0" := by
  rintro ⟨hdrive, _⟩
  revert hdrive
  decide

/-- The stack has room for the whole chain. -/
lemma not_isTooDeep_linkChain (path : String) : ¬IsTooDeep (projectSession linkChain) path := by
  have hroom : ((List.range 42).map linkName).reverse.length ≤ 900 := by decide +kernel
  have hshallow : ∀ p, ¬LinksTooDeep (projectSession linkChain).disk p :=
    not_linksTooDeep_of_ranked ranked_tree_linkChain fun _ => List.idxOf_le_length.trans hroom
  rintro (hdeep | ⟨_, _, hdeep⟩)
  · exact hshallow _ hdeep
  · exact hshallow _ hdeep

lemma resolve_root_linkChain :
    (projectSession linkChain).disk.resolve (projectSession linkChain).config.projectRoot =
      .ok ⟨.root, ["proj"]⟩ := by
  decide +kernel

lemma openProject_linkChain :
    Session.openProject (projectSession linkChain).disk (Path.ofString "/proj") none
      Overrides.none = .ok (projectSession linkChain) := by
  let config := Config.default ⟨.root, ["proj"]⟩
  have hroot : (projectSession linkChain).disk.resolve (Path.ofString "/proj") =
      .ok ⟨.root, ["proj"]⟩ := by
    decide +kernel
  have hload : Config.load (projectSession linkChain).disk ⟨.root, ["proj"]⟩ Overrides.none =
      .ok config := by
    decide +kernel
  have hdirs : (projectSession linkChain).disk.ensureDirs ⟨.root, ["proj", ".ink_index"]⟩ =
      .ok (projectSession linkChain).disk := by
    rfl
  have hcreate : ∀ name, Journal.create (projectSession linkChain).disk
      (config.dataDir.child name) = .ok (projectSession linkChain).disk := by
    intro name
    have hparent : (config.dataDir.child name).parent = ⟨.root, ["proj", ".ink_index"]⟩ := rfl
    rw [Journal.create, hparent, hdirs]
  have hstart : Session.start config (projectSession linkChain).disk =
      .ok (projectSession linkChain) := by
    unfold Session.start
    dsimp only
    rw [Session.auditFile, hcreate]
    dsimp only
    rw [Session.indexFile, hcreate]
    rfl
  unfold Session.openProject Session.withDataDir
  dsimp only
  rw [hroot]
  dsimp only
  rw [hload]
  exact hstart

lemma plainLog_empty (room : Nat) : PlainLog room "" := by
  have hnone : Journal.records room "" = .ok [] := rfl
  refine ⟨fun refusal hrefused => ?_, fun found hfound record hrecord => ?_⟩
  · cases hnone.symm.trans hrefused
  · obtain rfl := Except.ok.inj (hnone.symm.trans hfound)
    cases hrecord

lemma logsOpen_linkChain (room : Nat) : LogsOpen (projectSession linkChain) room := by
  have haudit : (projectSession linkChain).disk.locate .file (projectSession linkChain).auditFile =
      .ok ⟨["proj", ".ink_index", "audit.jsonl"], none⟩ := by
    rfl
  have hindex : (projectSession linkChain).disk.locate .file (projectSession linkChain).indexFile =
      .ok ⟨["proj", ".ink_index", "index.jsonl"], none⟩ := by
    rfl
  exact ⟨⟨_, "", ⟨_, haudit, by simp⟩, rfl, plainLog_empty room⟩, ⟨_, _, hindex, by simp⟩⟩

lemma width_outlineRequest (path : String) : (outlineRequest path).width ≤ Json.maxDigits := by
  simp [outlineRequest, Json.width, Json.fieldsWidth]

/-- No request is answered with an internal error, but for those that are set aside. -/
def NoInternalErrors (aside : Session → Moment → Request → Prop) : Prop :=
  ∀ (disk : Disk) (root : String) (dataDir : Option Path) (overrides : Overrides)
    (first session : Session), IsRealDir disk disk.cwd →
    Session.openProject disk (Path.ofString root) dataDir overrides = .ok first →
    Reached (fun _ => True) first session → Sound session.disk → LoopFree session.disk →
    ∀ (now : Moment), LogsOpen session now.logRoom → ∀ (payload : Json),
    payload.width ≤ Json.maxDigits →
    (∀ request candidate, ReadsAs session payload request →
      request.arguments.get? "path" = some (.str candidate) → Char.ofNat 0 ∉ candidate.toList) →
    (∀ request, ReadsAs session payload request → ¬aside session now request) →
    ∀ reply, (session.handlePayload now payload).2 = .ok reply →
      reply.error.map ReplyError.code ≠ some "INTERNAL_ERROR"

lemma isOverlong_longWay : IsOverlong (projectSession linkChain).disk longWay.render := by
  have hslashes : forwardSlashes longWay.render = longWay.render :=
    forwardSlashes_of_notMem _ (notMem_render_drivePath _ (by decide) (by decide))
  have hpath : Path.ofString longWay.render = longWay :=
    ofString_render_drivePath (by unfold IsName; decide)
  constructor
  · rw [hslashes]
    exact hasDrive_render_drivePath
  · rw [hslashes, hpath]
    exact overlong_longWay

lemma answer_of_fault {session : Session} {now : Moment} {request : Request} {tool : Tool}
    {fault : Fault} (htool : Tool.all.get? request.tool = some tool)
    (hrun : (session.run now tool request.arguments).2 = .error (.disk fault)) :
    (session.answer now request).2 = ToolFailure.reply request.id (.disk fault) := by
  unfold Session.answer
  rw [htool]
  dsimp only
  split
  · next after result heq =>
    rw [heq] at hrun
    cases hrun
  · next after failure heq =>
    rw [heq] at hrun
    rw [Except.error.inj hrun]

/-- The outline of a path that cannot be sought cannot be given. -/
lemma answer_of_confine {session : Session} {now : Moment} {id path : String} {fault : Fault}
    (hne : path ≠ "")
    (h : confine session.disk session.config.projectRoot path = .error (.disk fault)) :
    (session.answer now ⟨id, "ink.outline", [("path", .str path)]⟩).2 =
      ToolFailure.reply id (.disk fault) := by
  refine answer_of_fault get?_outline ?_
  change session.askOutline [("path", .str path)] = .error (.disk fault)
  rw [askOutline_eq_bind, pathFor_of_confine .outline rfl hne h]
  rfl

/-- A journal with too many brackets cannot be shown. -/
lemma answer_of_hasDeepLog {session : Session} {now : Moment}
    (h : HasDeepLog session now.logRoom) (id : String) (arguments : Fields) :
    (session.answer now ⟨id, "ink.audit_log", arguments⟩).2 =
      ToolFailure.reply id (.disk (.json .tooDeep)) := by
  obtain ⟨place, text, hplace, htext, hdeep⟩ := h
  obtain ⟨hlow, hhigh⟩ := limitArgument_bounds arguments
  have htool : Tool.all.get? "ink.audit_log" = some .auditLog := by decide
  refine answer_of_fault htool ?_
  change session.askAuditLog now arguments = .error (.disk (.json .tooDeep))
  unfold Session.askAuditLog Session.auditEntries
  rw [read_of_refused hplace htext (sinceArgument arguments) hlow hhigh hdeep]

/-- Where a path cannot be sought, the request for it has an internal error as its answer, and has
to be set aside. -/
lemma not_noInternalErrors_of_confine {aside : Session → Moment → Request → Prop}
    {session : Session} {path : String} {fault : Fault}
    (hreached : Reached (fun _ => True) (projectSession linkChain) session)
    (hdisk : Sound session.disk) (hloops : LoopFree session.disk)
    (hlogs : LogsOpen session sampleMoment.logRoom) (hne : path ≠ "")
    (hnul : Char.ofNat 0 ∉ path.toList)
    (hconfine : confine session.disk session.config.projectRoot path = .error (.disk fault))
    (haside : ∀ request, ReadsAs session (outlineRequest path) request →
      ¬aside session sampleMoment request) : ¬NoInternalErrors aside := by
  intro h
  have hid : chooseId session.usedIds (outlineRequest path) = .ok ("ask", session.usedIds) := rfl
  obtain ⟨place, _, hplace, _⟩ := hlogs.audit
  have hreply : (session.handlePayload sampleMoment (outlineRequest path)).2 =
      .ok (ToolFailure.reply "ask" (.disk fault)) := by
    rw [handlePayload_of_read hid (read_outlineRequest _ _) (width_outlineRequest _) hplace]
    exact congrArg _ (answer_of_confine hne hconfine)
  exact h _ _ _ _ _ _ sound_linkChain.cwd openProject_linkChain hreached hdisk hloops sampleMoment
    hlogs _ (width_outlineRequest _) (nulFree_outlineRequest _ hnul) haside _ hreply rfl

/-- The links of the chain do not run in a circle, and each can be resolved on its own. By way of
the drive the path is too long for that, and all of them have to be followed in one lookup. -/
lemma not_noInternalErrors_of_longWay :
    ¬NoInternalErrors fun session _ request =>
      AsksTooDeep session request.arguments ∨ request.tool = "ink.audit_log" := by
  have hlong := isOverlong_longWay
  have hnul : Char.ofNat 0 ∉ longWay.render.toList :=
    notMem_render_drivePath _ (by decide) (by decide)
  have hne : longWay.render ≠ "" := by
    intro hempty
    have hdrive := hlong.1
    rw [hempty] at hdrive
    revert hdrive
    decide
  refine not_noInternalErrors_of_confine .start sound_linkChain loopFree_linkChain
    (logsOpen_linkChain 900) hne hnul (confine_of_overlong resolve_root_linkChain hlong) ?_
  intro request hrequest
  rw [(readsAs_outlineRequest hrequest).2]
  rintro (hdeep | hname)
  · exact not_isTooDeep_linkChain _ (asks_of_path hdeep)
  · exact not_auditLog_outlineRequest hrequest hname

/-- The server of the chain, where the stack has no room for the whole chain. -/
def crampedSession : Session :=
  { projectSession linkChain with disk := { (projectSession linkChain).disk with linkRoom := 40 } }

lemma sound_crampedSession : Sound crampedSession.disk :=
  ⟨sound_linkChain.tree, sound_linkChain.texts, sound_linkChain.cwd.anchored,
    sound_linkChain.cwd.plain, sound_linkChain.cwd.isDir⟩

lemma logsOpen_crampedSession (room : Nat) : LogsOpen crampedSession room :=
  ⟨(logsOpen_linkChain room).audit, (logsOpen_linkChain room).index⟩

/-- To resolve the first link of the chain, all of them are resolved within each other. -/
lemma not_noInternalErrors_of_cramped :
    ¬NoInternalErrors fun session _ request =>
      AsksOverlong session.disk request.arguments ∨ request.tool = "ink.audit_log" := by
  have hloops : LoopFree crampedSession.disk :=
    loopFree_of_ranked ranked_tree_linkChain _ fun _ => List.idxOf_le_length
  have hconfine : confine crampedSession.disk crampedSession.config.projectRoot "l0" =
      .error (.disk .linksTooDeep) := by
    decide +kernel
  refine not_noInternalErrors_of_confine (.change _ trivial .start) sound_crampedSession hloops
    (logsOpen_crampedSession 900) (by decide) (by decide) hconfine ?_
  intro request hrequest
  rw [(readsAs_outlineRequest hrequest).2]
  rintro (hlong | hname)
  · exact not_isOverlong_l0 _ (asks_of_path hlong)
  · exact not_auditLog_outlineRequest hrequest hname

/-- The disk of a project in which there is only a journal of requests. -/
def journalDisk (journal : String) : Disk where
  tree := .dir [("proj", .dir [(".ink_index", .dir [("audit.jsonl", .file journal.toUTF8)])])]
  cwd := ⟨.root, ["proj"]⟩
  linkRoom := 900

lemma sound_journalDisk (journal : String) : Sound (journalDisk journal) := by
  have hdir : ∀ name node, IsPlain name → Proper node → Proper (.dir [(name, node)]) :=
    fun name node hname hnode => .dir _ (by simpa using hname) (by simp) (by simpa using hnode)
  have hfree : ∀ name node, Char.ofNat 0 ∉ name.toList → NulFreeTree node →
      NulFreeTree (.dir [(name, node)]) :=
    fun name node hname hnode => .dir _ (by simpa [NulFree] using hname) (by simpa using hnode)
  refine ⟨hdir _ _ (by decide) (hdir _ _ (by decide) (hdir _ _ (by decide) (.file _))),
    hfree _ _ (by decide) (hfree _ _ (by decide) (hfree _ _ (by decide) (.file _))), rfl, ?_, _,
    rfl⟩
  show ∀ part ∈ ["proj"], IsPlain part
  decide

/-- Without links there are no circles of them. -/
lemma loopFree_journalDisk (journal : String) : LoopFree (journalDisk journal) := by
  have hdir : ∀ name node, (∀ target, node ≠ .link target) → Ranked (fun _ => 0) node →
      Ranked (fun _ => 0) (.dir [(name, node)]) := by
    intro name node hlink hnode
    refine .dir _ ?_ (by simpa using hnode)
    rintro other target hmem
    obtain ⟨rfl, rfl⟩ := Prod.mk.inj (List.mem_singleton.mp hmem)
    exact absurd rfl (hlink target)
  have htree : Ranked (fun _ => 0) (journalDisk journal).tree :=
    hdir _ _ (by simp) (hdir _ _ (by simp) (hdir _ _ (by simp) (.file _)))
  exact loopFree_of_ranked htree 0 fun _ => Nat.le_refl 0

/-- A journal of requests of one line, with very many brackets. -/
def bracketJournal : String :=
  String.ofList (List.replicate 100000 '[') ++ "\n"

/-- The server of the chain, when only the journal is left of the project. -/
def bracketSession : Session :=
  { projectSession linkChain with disk := journalDisk bracketJournal }

lemma filePlace_bracketSession : FilePlace bracketSession.disk bracketSession.auditFile
    ["proj", ".ink_index", "audit.jsonl"] :=
  ⟨some (.file bracketJournal.toUTF8), rfl, by simp⟩

lemma records_bracketJournal : Journal.records 900 bracketJournal = .error .tooDeep :=
  records_replicate (by decide)

lemma logsOpen_bracketSession : LogsOpen bracketSession 900 := by
  refine ⟨⟨_, bracketJournal, filePlace_bracketSession, rfl, ?_, ?_⟩,
    ⟨["proj", ".ink_index", "index.jsonl"], none, rfl, by simp⟩⟩
  · intro refusal hrefused
    exact (Except.error.inj (records_bracketJournal.symm.trans hrefused)).symm
  · intro found hfound
    cases records_bracketJournal.symm.trans hfound

/-- A request for the journal of requests. -/
def auditLogRequest : Json :=
  .obj [("id", .str "ask"), ("method", .str "ink.audit_log")]

lemma not_noInternalErrors_of_brackets :
    ¬NoInternalErrors fun session _ request =>
      AsksOverlong session.disk request.arguments ∨ AsksTooDeep session request.arguments := by
  intro h
  have hread (id : String) : Request.read id auditLogRequest = .ok ⟨id, "ink.audit_log", []⟩ := rfl
  have hnoPath : ∀ request, ReadsAs bracketSession auditLogRequest request →
      request.arguments.get? "path" = none := by
    rintro request ⟨id, _, _, hrequest⟩
    obtain rfl := Except.ok.inj ((hread id).symm.trans hrequest)
    rfl
  have hreply : (bracketSession.handlePayload sampleMoment auditLogRequest).2 =
      .ok (ToolFailure.reply "ask" (.disk (.json .tooDeep))) := by
    have hid : chooseId bracketSession.usedIds auditLogRequest = .ok ("ask", 0) := rfl
    have hdeep : HasDeepLog bracketSession sampleMoment.logRoom :=
      ⟨_, bracketJournal, filePlace_bracketSession, rfl, records_bracketJournal⟩
    rw [handlePayload_of_read hid (hread "ask") (by decide) filePlace_bracketSession]
    exact congrArg _ (answer_of_hasDeepLog hdeep "ask" [])
  refine h _ "/proj" none Overrides.none _ bracketSession sound_linkChain.cwd openProject_linkChain
    (.change _ trivial .start) (sound_journalDisk _) (loopFree_journalDisk _) sampleMoment
    logsOpen_bracketSession auditLogRequest (by decide) ?_ ?_ _ hreply rfl
  · intro request candidate hrequest hget
    cases (hnoPath request hrequest).symm.trans hget
  · rintro request hrequest (⟨candidate, hget, _⟩ | ⟨candidate, hget, _⟩)
    · cases (hnoPath request hrequest).symm.trans hget
    · cases (hnoPath request hrequest).symm.trans hget

end StoryAtlas.Proofs
