import Mathlib.Logic.Relation
import StoryAtlas.Proofs.FileAppends
import StoryAtlas.Proofs.HandledRequests

/-!
# What a server writes

A server writes to two files and to nothing else on the disk: a tool adds records to the journal of
the index, and every request adds one to the journal of requests. Its configuration stays.
-/

namespace StoryAtlas.Proofs
open StoryAtlas.Disk Relation

/-- The configuration is the same, and the disk has changed only by records of the index. -/
structure Notes (session after : Session) : Prop where
  config : after.config = session.config
  disk : ReflTransGen (AppendsTo session.indexFile) session.disk after.disk

lemma notes_refl (session : Session) : Notes session session :=
  ⟨rfl, .refl⟩

lemma indexFile_of_config {session after : Session} (h : after.config = session.config) :
    after.indexFile = session.indexFile := by
  rw [Session.indexFile, Session.indexFile, h]

lemma auditFile_of_config {session after : Session} (h : after.config = session.config) :
    after.auditFile = session.auditFile := by
  rw [Session.auditFile, Session.auditFile, h]

lemma notes_trans {session between after : Session} (h : Notes session between)
    (h' : Notes between after) : Notes session after := by
  refine ⟨h'.config.trans h.config, h.disk.trans ?_⟩
  rw [← indexFile_of_config h.config]
  exact h'.disk

/-- A record that is added to a journal is written behind its end. -/
lemma appendsTo_of_append {room : Nat} {disk after : Disk} {file : Path} {given : Fields}
    {record : Json} (h : Journal.append room disk file given record = .ok after) :
    AppendsTo file disk after := by
  unfold Journal.append at h
  split at h
  · cases h
  · exact ⟨_, h⟩

lemma emit_notes (session after : Session) (now : Moment) (event : Event)
    (h : session.emit now event = .ok after) : Notes session after := by
  unfold Session.emit at h
  split at h
  · cases h
  · next disk happend =>
    obtain rfl := Except.ok.inj h
    exact ⟨rfl, .single (appendsTo_of_append happend)⟩

lemma emitAll_notes (session : Session) (now : Moment) (events : List Event) :
    Notes session (session.emitAll now events).1 := by
  induction events generalizing session with
  | nil => exact notes_refl session
  | cons event events ih =>
    unfold Session.emitAll
    cases hemit : session.emit now event with
    | error e => exact notes_refl session
    | ok noted => exact notes_trans (emit_notes session noted now event hemit) (ih noted)

lemma build_notes (session : Session) (now : Moment) : Notes session (session.build now).1 := by
  unfold Session.build
  split
  · exact notes_refl session
  split
  · exact notes_refl session
  next harvest _ =>
  have hnoted := emitAll_notes session now harvest.failureEvents
  unfold Session.commit
  split
  · next noted e hall =>
    rw [hall] at hnoted
    exact hnoted
  · next noted hall =>
    rw [hall] at hnoted
    have hmerged : Notes session
        { noted with index := noted.index.merge harvest.loaded now.timestamp } :=
      ⟨hnoted.config, hnoted.disk⟩
    dsimp only
    split
    · exact hmerged
    · next after hemit => exact notes_trans hmerged (emit_notes _ after now _ hemit)

lemma update_notes (session : Session) (now : Moment) (p : Path) (text : String) :
    Notes session (session.update now p text).1 := by
  have hupdated : Notes session { session with index := (session.index.update p text).1 } :=
    ⟨rfl, .refl⟩
  unfold Session.update
  dsimp only
  split
  · exact hupdated
  · next after hemit => exact notes_trans hupdated (emit_notes _ after now _ hemit)

lemma run_notes (session : Session) (now : Moment) (tool : Tool) (arguments : Fields) :
    Notes session (session.run now tool arguments).1 := by
  cases tool with
  | buildIndex =>
    have hbuild := build_notes session now
    unfold Session.run Session.runBuild
    dsimp only
    split <;> next after _ hrun => rwa [hrun] at hbuild
  | update =>
    unfold Session.run Session.runUpdate
    dsimp only
    split
    · exact notes_refl session
    next p _ =>
    split
    · exact notes_refl session
    next text _ =>
    split
    · exact notes_refl session
    have hupdate := update_notes session now p text
    split <;> next after _ hrun => rwa [hrun] at hupdate
  | status | outline | includeScope | complete | definition | auditLog => exact notes_refl session

lemma answer_notes (session : Session) (now : Moment) (request : Request) :
    Notes session (session.answer now request).1 := by
  unfold Session.answer
  split
  · exact notes_refl session
  next tool _ =>
  have hrun := run_notes session now tool request.arguments
  split <;> next after _ hafter => rwa [hafter] at hrun

/-! ### Both journals -/

/-- Something was written behind the end of a file in the directory for logs. -/
def LogWrite (config : Config) (disk after : Disk) : Prop :=
  ∃ name, IsPlain name ∧ AppendsTo (config.dataDir.child name) disk after

/-- The configuration is the same, and the disk has changed only in the directory for logs. -/
structure Logged (session after : Session) : Prop where
  config : after.config = session.config
  disk : ReflTransGen (LogWrite session.config) session.disk after.disk

lemma logged_of_notes {session after : Session} (h : Notes session after) :
    Logged session after := by
  refine ⟨h.config, ReflTransGen.mono ?_ _ _ h.disk⟩
  intro disk written hwritten
  exact ⟨"index.jsonl", by decide, hwritten⟩

lemma logged_trans {session between after : Session} (h : Logged session between)
    (h' : Logged between after) : Logged session after := by
  refine ⟨h'.config.trans h.config, h.disk.trans ?_⟩
  rw [← h.config]
  exact h'.disk

lemma audit_logged (session : Session) (now : Moment) (tool : String) (given arguments : Fields)
    (reply : Reply) : Logged session (session.audit now tool given arguments reply).1 := by
  unfold Session.audit
  dsimp only
  split
  · exact ⟨rfl, .refl⟩
  · next disk happend =>
    exact ⟨rfl, .single ⟨"audit.jsonl", by decide, appendsTo_of_append happend⟩⟩

lemma handlePayload_logged (session : Session) (now : Moment) (payload : Json) :
    Logged session (session.handlePayload now payload).1 := by
  have hnumbered (used : Nat) : Logged session { session with usedIds := used } := ⟨rfl, .refl⟩
  generalize hafter : session.handlePayload now payload = after
  cases hafter ▸ handled_handlePayload session now payload with
  | refused refusal => exact ⟨rfl, .refl⟩
  | malformed id used error =>
    exact logged_trans (hnumbered used) (audit_logged _ now _ _ _ _)
  | answered id used request =>
    exact logged_trans (hnumbered used) (logged_trans (logged_of_notes (answer_notes _ now request))
      (audit_logged _ now _ _ _ _))

lemma handleSpelled_logged (session : Session) (now : Moment) (spelled : RawJson) :
    Logged session (session.handleSpelled now spelled).1 := by
  generalize hafter : session.handleSpelled now spelled = after
  cases hafter ▸ handledSpelled_handleSpelled session now spelled with
  | payload payload => exact handlePayload_logged session now payload
  | halfPair => exact ⟨rfl, .refl⟩

lemma handleLine_logged (session : Session) (now : Moment) (line : String) :
    Logged session (session.handleLine now line).1 := by
  generalize hafter : session.handleLine now line = after
  cases hafter ▸ handledLine_handleLine session now line with
  | spelled spelled => exact handleSpelled_logged session now spelled
  | refused refusal => exact ⟨rfl, .refl⟩
  | notJson =>
    have hnumbered : Logged session { session with usedIds := session.usedIds + 1 } := ⟨rfl, .refl⟩
    exact logged_trans hnumbered (audit_logged _ now _ _ _ _)

/-- A server for a project with these files, just started. -/
def projectSession (files : Entries) : Session where
  config := Config.default ⟨.root, ["proj"]⟩
  index := Index.empty ⟨.root, ["proj"]⟩
  usedIds := 0
  disk := ⟨.dir [("proj", .dir ((".ink_index", .dir []) :: files))], ⟨.root, ["proj"]⟩, 900⟩

end StoryAtlas.Proofs
