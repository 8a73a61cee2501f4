import StoryAtlas.Proofs.CanonicalKeys
import StoryAtlas.Proofs.LogWrites
import StoryAtlas.Proofs.ProperTrees
import StoryAtlas.Proofs.RequestFrame

/-!
# Runs of a server

A server answers requests and builds its index, and between that others may change the disk. Each
entry of the index goes back to a call of the run that was an update, or that searched the project.
What a server itself writes keeps the disk in order.
-/

namespace StoryAtlas.Proofs
open StoryAtlas.Disk StoryAtlas.Story Relation

/-- What a server is called to do. -/
inductive Call where
  | payload (now : Moment) (value : Json)
  | line (now : Moment) (text : String)
  | build (now : Moment)

namespace Call

/-- The session after a call. -/
def apply (session : Session) : Call → Session
  | payload now value => (session.handlePayload now value).1
  | line now text => (session.handleLine now text).1
  | build now => (session.build now).1

/-- The call is read as the request. -/
def Asks (session : Session) : Call → Request → Prop
  | payload _ value, request => ReadsAs session value request
  | line now text, request => ∃ value, Json.parse (.within now.lineRoom) text = .ok value ∧
      ReadsAs session value request
  | build _, _ => False

/-- The call takes the story in under the key. -/
structure TakesIn (session : Session) (call : Call) (k : Path) (file : StoryFile) : Prop where
  before : (k, file) ∉ session.index.files
  after : (k, file) ∈ (call.apply session).index.files

end Call

/-- The sessions that a server comes to, while others change the disk to disks of one kind. -/
inductive Reached (allowed : Disk → Prop) (first : Session) : Session → Prop
  | start : Reached allowed first first
  | call {session : Session} (call : Call) (h : Reached allowed first session) :
      Reached allowed first (call.apply session)
  | change {session : Session} (disk : Disk) (hdisk : allowed disk)
      (h : Reached allowed first session) : Reached allowed first { session with disk := disk }

lemma reached_of_call {allowed : Disk → Prop} {before session : Session} {call : Call}
    (h : Reached allowed (call.apply before) session) : Reached allowed before session := by
  induction h with
  | start => exact .call call .start
  | call later h ih => exact .call later ih
  | change disk hdisk h ih => exact .change disk hdisk ih

/-! ### Steps of the index -/

/-- What a tool can do to the index: take in the text of an update that is admitted, or build from
the project. -/
inductive ToolStep (session : Session) : Tool → Fields → Step → Prop
  | update {arguments : Fields} {k : Path} {text : String}
      (h : Admitted session arguments k text) : ToolStep session .update arguments (.update k text)
  | build (now : Moment) (arguments : Fields) :
      ToolStep session .buildIndex arguments (.buildProject session.disk
        session.config.limits.maxFileBytes session.config.filter session.config.projectRoot
        now.timestamp now.buildMs)

/-- What a call can do to the index. -/
inductive CallStep (session : Session) (call : Call) : Step → Prop
  | update {request : Request} {k : Path} {text : String} (hasks : call.Asks session request)
      (htool : request.tool = "ink.update") (h : Admitted session request.arguments k text) :
      CallStep session call (.update k text)
  | build (now : Moment) : CallStep session call (.buildProject session.disk
      session.config.limits.maxFileBytes session.config.filter session.config.projectRoot
      now.timestamp now.buildMs)

/-- The index is as in the session, or one step further. -/
def Moves (session : Session) (allowed : Step → Prop) (index : Index) : Prop :=
  index = session.index ∨ ∃ step, allowed step ∧ index = step.apply session.index

lemma moves_run (session : Session) (now : Moment) (tool : Tool) (arguments : Fields) :
    Moves session (ToolStep session tool arguments) (session.run now tool arguments).1.index := by
  rcases run_runsTo session now tool arguments with ⟨disk, hrun⟩ |
    ⟨changed, event, result, hchanges, hreports⟩
  · exact Or.inl (by rw [hrun])
  · have hindex : ∀ after, Reports changed now event result after →
        after.1.index = changed.index := by
      rintro _ (⟨fault, hemit⟩ | ⟨disk, hemit⟩) <;> rfl
    rw [hindex _ hreports]
    cases hchanges with
    | update _ k text hpath htext hsize =>
      exact Or.inr ⟨_, .update ((admitted_iff session arguments k text).mpr
        ⟨hpath, htext, hsize⟩), rfl⟩
    | build _ found harvest disk hfound hgather _ =>
      refine Or.inr ⟨_, .build now arguments, ?_⟩
      simp only [Step.apply, Index.buildProject, hfound, Index.build, hgather]

lemma moves_answer (session : Session) (now : Moment) (request : Request) :
    (session.answer now request).1.index = session.index ∨
      ∃ tool, request.tool = tool.name ∧ Moves session (ToolStep session tool request.arguments)
        (session.answer now request).1.index := by
  unfold Session.answer
  split
  · exact Or.inl rfl
  next tool htool =>
  refine Or.inr ⟨tool, (get?_all_iff request.tool tool).mp htool, ?_⟩
  have hrun := moves_run session now tool request.arguments
  split <;> next after _ hafter => rwa [hafter] at hrun

lemma moves_handlePayload (session : Session) (now : Moment) (payload : Json) {call : Call}
    (hasks : ∀ request, ReadsAs session payload request → call.Asks session request) :
    Moves session (CallStep session call) (session.handlePayload now payload).1.index := by
  generalize hafter : session.handlePayload now payload = after
  cases hafter ▸ handled_handlePayload session now payload with
  | refused refusal => exact Or.inl rfl
  | malformed id used error =>
    rw [index_audit]
    exact Or.inl rfl
  | answered id used request hid hread =>
    rw [index_audit]
    have hrequest := hasks request ⟨id, used, hid, hread⟩
    rcases moves_answer { session with usedIds := used } now request with
      hsame | ⟨tool, htool, hsame | ⟨step, hstep, happly⟩⟩
    · exact Or.inl hsame
    · exact Or.inl hsame
    · refine Or.inr ⟨step, ?_, happly⟩
      cases hstep with
      | update h => exact .update hrequest htool ⟨h.path, h.brings, h.fits⟩
      | build now => exact .build now

lemma moves_call (session : Session) (call : Call) :
    Moves session (CallStep session call) (call.apply session).index := by
  cases call with
  | payload now payload => exact moves_handlePayload session now payload fun _ => id
  | line now line =>
    have happly : (Call.line now line).apply session = (session.handleLine now line).1 := rfl
    rw [happly]
    generalize hafter : session.handleLine now line = after
    cases hafter ▸ handledLine_handleLine session now line with
    | spelled spelled hparse =>
      generalize hspelled : session.handleSpelled now spelled = after
      cases hspelled ▸ handledSpelled_handleSpelled session now spelled with
      | payload payload htext =>
        exact moves_handlePayload session now payload fun request hread =>
          ⟨payload, parse_eq_ok hparse htext, hread⟩
      | halfPair => exact Or.inl rfl
    | refused refusal => exact Or.inl rfl
    | notJson =>
      rw [index_audit]
      exact Or.inl rfl
  | build now =>
    have hrun := moves_run session now .buildIndex []
    unfold Session.run Session.runBuild at hrun
    dsimp only at hrun
    have hindex : Moves session (ToolStep session .buildIndex []) (session.build now).1.index := by
      split at hrun <;> next after _ hbuild => rwa [hbuild]
    refine hindex.imp_right ?_
    rintro ⟨step, ⟨⟩, happly⟩
    exact ⟨_, .build _, happly⟩

/-- An entry goes back to a step that a call took earlier. -/
theorem exists_step_of_mem (allowed : Disk → Prop) (first session : Session)
    (hfirst : first.index.files = []) (h : Reached allowed first session) (k : Path)
    (file : StoryFile) (hmem : (k, file) ∈ session.index.files) :
    ∃ before call step text, Reached allowed first before ∧
      Reached allowed (call.apply before) session ∧ call.TakesIn before k file ∧
      CallStep before call step ∧ file = StoryFile.read k text ∧
      BringsIn before.index.base step k text := by
  induction h with
  | start => simp [hfirst] at hmem
  | @call session call h ih =>
    -- an entry that is not there before the call is what its step of the index brings in
    by_cases hold : (k, file) ∈ session.index.files
    · obtain ⟨before, earlier, step, text, hbefore, hafter, hrest⟩ := ih hold
      exact ⟨before, earlier, step, text, hbefore, .call call hafter, hrest⟩
    · rcases moves_call session call with hsame | ⟨step, hstep, happly⟩
      · rw [hsame] at hmem
        exact absurd hmem hold
      · have hbrought := hmem
        rw [happly] at hbrought
        obtain ⟨text, hfile, hbrings⟩ :=
          (mem_files_apply session.index step k file hbrought).resolve_left hold
        exact ⟨session, call, step, text, h, .start, ⟨hold, hmem⟩, hstep, hfile, hbrings⟩
  | change disk hdisk h ih =>
    obtain ⟨before, call, step, text, hbefore, hafter, hrest⟩ := ih hmem
    exact ⟨before, call, step, text, hbefore, .change disk hdisk hafter, hrest⟩

/-! ### The disk -/

lemma logged_call (session : Session) (call : Call) : Logged session (call.apply session) := by
  cases call with
  | payload now payload => exact handlePayload_logged session now payload
  | line now line => exact handleLine_logged session now line
  | build now => exact logged_of_notes (build_notes session now)

lemma config_reached {allowed : Disk → Prop} {first session : Session}
    (h : Reached allowed first session) : session.config = first.config := by
  induction h with
  | start => rfl
  | call call h ih => exact (logged_call _ call).config.trans ih
  | change disk hdisk h ih => exact ih

/-- A disk as a system has it, with a project at the root: names are proper, the current directory
is spelled out from the top, and the root is a real directory. -/
structure Grounded (root : Path) (disk : Disk) : Prop where
  tree : Proper disk.tree
  cwd : disk.cwd.anchor = .root ∧ Spelled disk.cwd
  root : IsRealDir disk root

lemma isRealDir_grown {disk after : Disk} {p : Path} (h : Grown disk.tree after.tree)
    (hp : IsRealDir disk p) : IsRealDir after p :=
  ⟨hp.anchored, hp.plain, (h.dir p.parts).mp hp.isDir⟩

lemma parts_child (p : Path) (name : String) : (p.child name).parts ≠ [] := by
  simp [Path.child]

lemma grounded_logWrite {config : Config} {disk after : Disk} (hdata : Spelled config.dataDir)
    (h : LogWrite config disk after) (hdisk : Grounded config.projectRoot disk) :
    Grounded config.projectRoot after := by
  obtain ⟨name, hname, happend⟩ := h
  have hp := parts_child config.dataDir name
  refine ⟨?_, ?_, isRealDir_grown (grown_appendsTo hp happend) hdisk.root⟩
  · exact proper_appendsTo hp (spelled_child _ name hdata hname.1) happend hdisk.tree
  · rw [cwd_appendsTo hp happend]
    exact hdisk.cwd

lemma grounded_logWrites {config : Config} {disk after : Disk} (hdata : Spelled config.dataDir)
    (h : ReflTransGen (LogWrite config) disk after) (hdisk : Grounded config.projectRoot disk) :
    Grounded config.projectRoot after := by
  induction h with
  | refl => exact hdisk
  | tail _ hwrite ih => exact grounded_logWrite hdata hwrite ih

/-- The disk stays in order if those who change it keep it in order. -/
theorem grounded_reached (first session : Session) (hdata : Spelled first.config.dataDir)
    (hdisk : Grounded first.config.projectRoot first.disk)
    (h : Reached (Grounded first.config.projectRoot) first session) :
    Grounded first.config.projectRoot session.disk := by
  induction h with
  | start => exact hdisk
  | @call session call h ih =>
    have hlogged := (logged_call session call).disk
    rw [config_reached h] at hlogged
    exact grounded_logWrites hdata hlogged ih
  | change disk hchanged h ih => exact hchanged

lemma grounded_projectSession (files : Entries)
    (h : Proper (.dir ((".ink_index", .dir []) :: files))) :
    Grounded (projectSession files).config.projectRoot (projectSession files).disk := by
  refine ⟨.dir _ ?_ ?_ ?_, ⟨rfl, ?_⟩, ⟨rfl, ?_, _, rfl⟩⟩
  · simp only [List.forall_mem_singleton]
    decide
  · simp
  · simpa using h
  · simp [Spelled, projectSession, IsName, Path.isSolid]
  · show ∀ part ∈ ["proj"], IsPlain part
    decide

lemma isRealDir_cwd_projectSession (files : Entries) :
    IsRealDir (projectSession files).disk (projectSession files).disk.cwd := by
  refine ⟨rfl, ?_, _, rfl⟩
  show ∀ part ∈ ["proj"], IsPlain part
  decide

lemma spelled_dataDir_projectSession (files : Entries) :
    Spelled (projectSession files).config.dataDir := by
  show ∀ part ∈ ["proj", ".ink_index"], IsName part
  simp [IsName, Path.isSolid]

/-! ### Where keys come from -/

/-- Why a path is a key with the story of a text: the call was an update that was admitted with
them, or a search found a file there. -/
inductive Origin (session : Session) (call : Call) (k : Path) (text : String) : Prop
  | updated (request : Request) (hasks : call.Asks session request)
      (htool : request.tool = "ink.update") (h : Admitted session request.arguments k text)
  | found (content : ByteArray) (hanchor : k.anchor = .root)
      (hwithin : session.config.projectRoot.parts <+: k.parts)
      (hfile : session.disk.tree.get? k.parts = some (.file content)) (hnul : hasNul k = false)

/-- The path is the root or lies below it, with plain names on the way. -/
structure Below (root k : Path) : Prop where
  anchored : k.anchor = .root
  within : root.parts <+: k.parts
  plain : ∀ part ∈ k.parts, IsPlain part

lemma canonical_of_below {root k : Path} (h : Below root k) (base : Path) :
    Path.canonical base k = k := by
  apply canonical_of_isCanonical
  exact ⟨by simp [h.anchored], fun part hpart => (h.plain part hpart).2⟩

lemma resolve_of_confine {disk : Disk} {root p : Path} {candidate : String}
    (hroot : IsRealDir disk root) (h : confine disk root candidate = .ok p) :
    disk.resolve (requested root candidate) = .ok p ∧ root.isWithin p = true := by
  unfold confine at h
  split at h
  · cases h
  · next root' hresolve =>
    obtain rfl := resolve_realDir root root' hroot hresolve
    exact confineBelow_eq_ok disk root' p candidate h

lemma below_of_confine {disk : Disk} {root p : Path} {candidate : String}
    (hdisk : Grounded root disk) (h : confine disk root candidate = .ok p) : Below root p := by
  obtain ⟨hresolve, hwithin⟩ := resolve_of_confine hdisk.root h
  have hspelled : Spelled p := spelled_resolve disk _ p hdisk.cwd.2
    (spelled_requested root candidate fun part hpart => (hdisk.root.plain part hpart).1) hresolve
  have hcanonical : IsCanonical p := by
    obtain ⟨found, _, rfl⟩ := resolve_eq_ok _ p hresolve
    cases found <;> exact isCanonical_canonical disk.cwd _ (by simp [hdisk.cwd.1])
  simp only [Path.isWithin, Bool.and_eq_true, beq_iff_eq, List.isPrefixOf_iff_prefix] at hwithin
  exact ⟨hwithin.1.symm.trans hdisk.root.anchored, hwithin.2,
    fun part hpart => ⟨hspelled part hpart, hcanonical.climbed part hpart⟩⟩

/-- What an update was admitted with is what its path was let through to. -/
lemma confine_of_admitted {session : Session} {arguments : Fields} {k : Path} {text : String}
    (hdisk : Grounded session.config.projectRoot session.disk)
    (h : Admitted session arguments k text) : ∃ candidate,
      arguments.get? "path" = some (.str candidate) ∧
      confine session.disk session.config.projectRoot candidate = .ok k := by
  obtain ⟨candidate, p, hpath, _, hconfine, rfl⟩ := h.path
  refine ⟨candidate, hpath, ?_⟩
  rw [Index.key, canonical_of_below (below_of_confine hdisk hconfine)]
  exact hconfine

lemma below_of_origin {session : Session} {call : Call} {k : Path} {text : String}
    (hdisk : Grounded session.config.projectRoot session.disk)
    (h : Origin session call k text) : Below session.config.projectRoot k := by
  cases h with
  | updated request hasks htool h =>
    obtain ⟨candidate, _, hconfine⟩ := confine_of_admitted hdisk h
    exact below_of_confine hdisk hconfine
  | found content hanchor hwithin hfile hnul =>
    exact ⟨hanchor, hwithin, (proper_get? _ _ _ hdisk.tree hfile).2⟩

lemma origin_of_bringsIn (session : Session) (call : Call) (step : Step) (base k : Path)
    (text : String) (hdisk : Grounded session.config.projectRoot session.disk)
    (hstep : CallStep session call step) (h : BringsIn base step k text) :
    Origin session call k text := by
  cases hstep with
  | @update request k' text' hasks htool hadmitted =>
    rcases h with ⟨q, heq, rfl⟩ | ⟨plan, hplan, _⟩
    · obtain ⟨rfl, rfl⟩ := Step.update.inj heq
      obtain ⟨_, _, hconfine⟩ := confine_of_admitted hdisk hadmitted
      rw [canonical_of_below (below_of_confine hdisk hconfine)]
      exact .updated request hasks htool hadmitted
    · cases hplan
  | build now =>
    rcases h with ⟨q, heq, _⟩ | ⟨plan, hplan, hk, _⟩
    · cases heq
    · cases hfound : discover session.disk session.config.filter session.config.projectRoot with
      | error e => simp [Step.plan?, hfound] at hplan
      | ok found =>
        simp only [Step.plan?, hfound] at hplan
        obtain ⟨p, hp, rfl⟩ := mem_keys_ofPaths? base _ _ _ plan k hplan hk
        obtain ⟨hanchor, hwithin, content, hfile⟩ :=
          discover_get? _ _ _ p found hdisk.tree hdisk.root hfound hp
        have hbelow : Below session.config.projectRoot p :=
          ⟨hanchor, hwithin, (proper_get? _ _ _ hdisk.tree hfile).2⟩
        have hnul : hasNul (Path.canonical base p) = false := by
          unfold Plan.ofPaths? at hplan
          split_ifs at hplan with hany
          by_contra hbad
          exact hany (List.any_eq_true.mpr ⟨_, List.mem_map_of_mem hp, by simpa using hbad⟩)
        rw [canonical_of_below hbelow] at hnul ⊢
        exact .found content hanchor hwithin hfile hnul

/-- Every key of a server goes back to a call that took it in, by an update or by a search, and the
entry is the story that was read under it. -/
theorem exists_origin (allowed : Disk → Prop) (first session : Session)
    (hfirst : first.index.files = []) (h : Reached allowed first session)
    (hdisk : ∀ before, Reached allowed first before →
      Grounded first.config.projectRoot before.disk)
    (k : Path) (file : StoryFile) (hmem : (k, file) ∈ session.index.files) :
    ∃ before call text, file = StoryFile.read k text ∧ Reached allowed first before ∧
      Reached allowed (call.apply before) session ∧ call.TakesIn before k file ∧
      Origin before call k text := by
  obtain ⟨before, call, step, text, hbefore, hafter, htakes, hstep, hfile, hbrings⟩ :=
    exists_step_of_mem allowed first session hfirst h k file hmem
  have hgrounded := hdisk before hbefore
  rw [← config_reached hbefore] at hgrounded
  exact ⟨before, call, text, hfile, hbefore, hafter, htakes,
    origin_of_bringsIn before call step _ k text hgrounded hstep hbrings⟩

end StoryAtlas.Proofs
