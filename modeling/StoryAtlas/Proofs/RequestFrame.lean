import StoryAtlas.Proofs.IndexRuns
import StoryAtlas.Proofs.LinkResolution
import StoryAtlas.Proofs.PathSpelling
import StoryAtlas.Proofs.RefusedRequests

/-!
# What a request can change

Of all tools only an update and a build reach the index. An update whose arguments pass its checks
replaces one entry, and an update whose arguments do not pass them replaces none.
-/

namespace StoryAtlas.Proofs
open StoryAtlas.Disk StoryAtlas.Story

/-! ### Tools by name -/

lemma get?_all_iff (name : String) (tool : Tool) :
    Tool.all.get? name = some tool ↔ name = tool.name := by
  constructor
  · intro h
    have hmem := mem_of_lookup_eq_some _ _ _ h
    obtain ⟨found, _, hfound⟩ := List.mem_map.mp hmem
    obtain ⟨hname, rfl⟩ := Prod.mk.inj hfound
    exact hname.symm
  · rintro rfl
    cases tool <;> decide

/-! ### The arguments of an update -/

lemma pathFor_eq_ok_iff (session : Session) (tool : Tool) (arguments : Fields) (k : Path) :
    session.pathFor tool arguments = .ok k ↔
      ∃ candidate p, arguments.get? "path" = some (.str candidate) ∧ candidate ≠ "" ∧
        confine session.disk session.config.projectRoot candidate = .ok p ∧
        session.index.key p = k := by
  unfold Session.pathFor pathArgument
  split
  · next e he =>
    split at he
    · split_ifs at he with hempty
      simp_all
    · next hpath =>
      constructor
      · intro h
        cases h
      · rintro ⟨candidate, _, hcandidate, _⟩
        exact absurd hcandidate (hpath candidate)
  · next candidate hcandidate =>
    split at hcandidate
    · next found hfound =>
      split_ifs at hcandidate with hempty
      obtain rfl : found = candidate := Except.ok.inj hcandidate
      split <;> simp_all
    · cases hcandidate

lemma textArgument_eq_ok_iff (arguments : Fields) (text : String) :
    textArgument arguments = .ok text ↔ arguments.get? "text" = some (.str text) := by
  unfold textArgument
  split <;> simp_all

lemma checkTextSize_eq_ok_iff (maxFileBytes : Int) (text : String) :
    checkTextSize maxFileBytes text = .ok () ↔ (text.utf8ByteSize : Int) ≤ maxFileBytes := by
  unfold checkTextSize
  split_ifs with hlarge
  · simpa using hlarge
  · simpa using hlarge

/-- The arguments of an update name a path that leads to `k` below the project root, and bring a
text that is not too large. -/
structure Admitted (session : Session) (arguments : Fields) (k : Path) (text : String) : Prop where
  path : ∃ candidate p, arguments.get? "path" = some (.str candidate) ∧ candidate ≠ "" ∧
    confine session.disk session.config.projectRoot candidate = .ok p ∧ session.index.key p = k
  brings : arguments.get? "text" = some (.str text)
  fits : (text.utf8ByteSize : Int) ≤ session.config.limits.maxFileBytes

lemma admitted_iff (session : Session) (arguments : Fields) (k : Path) (text : String) :
    Admitted session arguments k text ↔
      session.pathFor .update arguments = .ok k ∧ textArgument arguments = .ok text ∧
        checkTextSize session.config.limits.maxFileBytes text = .ok () := by
  rw [pathFor_eq_ok_iff, textArgument_eq_ok_iff, checkTextSize_eq_ok_iff]
  exact ⟨fun h => ⟨h.path, h.brings, h.fits⟩, fun h => ⟨h.1, h.2.1, h.2.2⟩⟩

/-! ### Runs of an update -/

lemma index_update (session : Session) (now : Moment) (p : Path) (text : String) :
    (session.update now p text).1.index = (session.index.update p text).1 := by
  unfold Session.update
  dsimp only
  rcases emit_cases { session with index := (session.index.update p text).1 } now
    (Index.updateEvent (session.index.update p text).2) with ⟨fault, hemit⟩ | ⟨disk, hemit⟩
  · rw [hemit]
  · rw [hemit]

lemma index_runUpdate_of_admitted (session : Session) (now : Moment) (arguments : Fields)
    (k : Path) (text : String) (h : Admitted session arguments k text) :
    (session.runUpdate now arguments).1.index = (session.index.update k text).1 := by
  obtain ⟨hpath, htext, hsize⟩ := (admitted_iff session arguments k text).mp h
  have hupdate := index_update session now k text
  unfold Session.runUpdate
  simp only [hpath, htext, hsize]
  split <;> simp_all

lemma index_runUpdate_of_not_admitted (session : Session) (now : Moment) (arguments : Fields)
    (h : ¬∃ k text, Admitted session arguments k text) :
    (session.runUpdate now arguments).1.index = session.index := by
  rcases runUpdate_runsTo session now arguments with ⟨disk, hrun⟩ | ⟨_, _, _, hchanges, _⟩
  · rw [hrun]
  · cases hchanges with
    | update _ p text hpath htext hsize =>
      exact absurd ⟨p, text, (admitted_iff session arguments p text).mpr ⟨hpath, htext, hsize⟩⟩ h

lemma key_of_admitted (session : Session) (arguments : Fields) (k : Path) (text : String)
    (hbase : session.index.base.anchor ≠ .relative) (h : Admitted session arguments k text) :
    session.index.key k = k := by
  obtain ⟨_, p, _, _, _, hkey⟩ := h.path
  rw [← hkey]
  exact canonical_of_isCanonical _ _ (isCanonical_canonical session.index.base p hbase)

/-! ### Requests -/

/-- The session in which the tool of a request runs. -/
def numbered (session : Session) (used : Nat) : Session :=
  { session with usedIds := used }

lemma index_handlePayload (session : Session) (now : Moment) (payload : Json) (request : Request)
    (h : ReadsAs session payload request) :
    ∃ used, (session.handlePayload now payload).1.index =
      ((numbered session used).answer now request).1.index := by
  obtain ⟨id, used, hid, hread⟩ := h
  refine ⟨used, ?_⟩
  unfold Session.handlePayload
  simp only [hid, hread]
  rw [index_audit]
  rfl

lemma index_handlePayload_of_not_read (session : Session) (now : Moment) (payload : Json)
    (h : ¬∃ request, ReadsAs session payload request) :
    (session.handlePayload now payload).1.index = session.index := by
  generalize hafter : session.handlePayload now payload = after
  cases hafter ▸ handled_handlePayload session now payload with
  | refused refusal => rfl
  | malformed id used error => rw [index_audit]
  | answered id used request hid hread => exact absurd ⟨request, id, used, hid, hread⟩ h

lemma index_answer (session : Session) (now : Moment) (request : Request) (tool : Tool)
    (h : request.tool = tool.name) :
    (session.answer now request).1.index =
      (session.run now tool request.arguments).1.index := by
  have htool := (get?_all_iff request.tool tool).mpr h
  unfold Session.answer
  simp only [htool]
  split <;> simp_all

lemma index_answer_of_ne (session : Session) (now : Moment) (request : Request)
    (hupdate : request.tool ≠ Tool.update.name) (hbuild : request.tool ≠ Tool.buildIndex.name) :
    (session.answer now request).1.index = session.index := by
  cases htool : Tool.all.get? request.tool with
  | none =>
    unfold Session.answer
    rw [htool]
  | some tool =>
    have hname := (get?_all_iff request.tool tool).mp htool
    rw [index_answer session now request tool hname]
    cases tool with
    | update => exact absurd hname hupdate
    | buildIndex => exact absurd hname hbuild
    | status | outline | includeScope | complete | definition | auditLog => rfl

/-- Only an update and a build change the index. An update that is admitted makes the text the story
at its path and leaves the other entries, the built paths and the time of the last build as they
were, and an update that is not admitted leaves the whole index. Paths are seen from an absolute
directory, as every server has it. -/
theorem request_changes_at_most_one_entry (session : Session) (now : Moment) (payload : Json)
    (hbase : session.index.base.anchor ≠ .relative) :
    let after := (session.handlePayload now payload).1.index
    (after ≠ session.index → ∃ request, ReadsAs session payload request ∧
      (request.tool = "ink.update" ∨ request.tool = "ink.build_index")) ∧
    ∀ request, ReadsAs session payload request → request.tool = "ink.update" →
      after.built = session.index.built ∧ after.lastBuild = session.index.lastBuild ∧
      (∀ k text, Admitted session request.arguments k text →
        after.entry? k = some (StoryFile.read k text) ∧
          ∀ other, other ≠ k → after.entry? other = session.index.entry? other) ∧
      ((¬∃ k text, Admitted session request.arguments k text) → after = session.index) := by
  intro after
  constructor
  · intro hchanged
    by_cases hread : ∃ request, ReadsAs session payload request
    · obtain ⟨request, hrequest⟩ := hread
      refine ⟨request, hrequest, ?_⟩
      by_contra hother
      obtain ⟨hupdate, hbuild⟩ := not_or.mp hother
      obtain ⟨used, hafter⟩ := index_handlePayload session now payload request hrequest
      apply hchanged
      exact hafter.trans (index_answer_of_ne _ now request hupdate hbuild)
    · exact absurd (index_handlePayload_of_not_read session now payload hread) hchanged
  · intro request hread hname
    obtain ⟨used, hanswer⟩ := index_handlePayload session now payload request hread
    have hafter : after = ((numbered session used).runUpdate now request.arguments).1.index :=
      hanswer.trans (index_answer _ now request .update hname)
    have hadmitted : ∀ k text, Admitted session request.arguments k text →
        after = (session.index.update k text).1 := by
      intro k text h
      exact hafter.trans (index_runUpdate_of_admitted (numbered session used) now _ k text
        ⟨h.path, h.brings, h.fits⟩)
    have hrefused : (¬∃ k text, Admitted session request.arguments k text) →
        after = session.index := by
      intro h
      refine hafter.trans (index_runUpdate_of_not_admitted (numbered session used) now _ ?_)
      rintro ⟨k, text, hk⟩
      exact h ⟨k, text, hk.path, hk.brings, hk.fits⟩
    have hsame : after.built = session.index.built ∧
        after.lastBuild = session.index.lastBuild := by
      by_cases h : ∃ k text, Admitted session request.arguments k text
      · obtain ⟨k, text, hk⟩ := h
        rw [hadmitted k text hk]
        exact ⟨rfl, rfl⟩
      · rw [hrefused h]
        exact ⟨rfl, rfl⟩
    refine ⟨hsame.1, hsame.2, ?_, hrefused⟩
    intro k text hk
    have hkey := key_of_admitted session request.arguments k text hbase hk
    rw [hadmitted k text hk]
    constructor
    · rw [entry?_update, hkey, if_pos rfl]
    · intro other hother
      rw [entry?_update, hkey, if_neg hother]

lemma start_emptyProject :
    (Session.start (Config.default ⟨.root, ["proj"]⟩) emptyProject).toOption.map (fun session =>
      (session.index.base, session.index.files.length, session.config.limits.maxFileBytes,
        confine session.disk session.config.projectRoot "main.ink")) =
    some (⟨.root, ["proj"]⟩, 0, 2097152, .ok ⟨.root, ["proj", "main.ink"]⟩) := by
  decide +kernel

theorem request_changes_at_most_one_entry_main : ∃ session request,
    Session.start (Config.default ⟨.root, ["proj"]⟩) emptyProject = .ok session ∧
    session.index.base.anchor ≠ .relative ∧
    ReadsAs session updateMain request ∧
    request.tool = "ink.update" ∧
    Admitted session request.arguments ⟨.root, ["proj", "main.ink"]⟩ "" ∧
    session.index.entry? ⟨.root, ["proj", "main.ink"]⟩ = none ∧
    (session.handlePayload sampleMoment updateMain).1.index.entry? ⟨.root, ["proj", "main.ink"]⟩ =
      some (StoryFile.read ⟨.root, ["proj", "main.ink"]⟩ "") := by
  have hfacts := start_emptyProject
  cases hstart : Session.start (Config.default ⟨.root, ["proj"]⟩) emptyProject with
  | error e => simp [hstart, Except.toOption] at hfacts
  | ok session =>
    simp only [hstart, Except.toOption, Option.map_some, Option.some.injEq, Prod.mk.injEq] at hfacts
    obtain ⟨hbase, hfiles, hlimit, hconfine⟩ := hfacts
    have hanchor : session.index.base.anchor ≠ .relative := by
      rw [hbase]
      decide
    have hadmitted : Admitted session
        (Fields.ofList [("path", .str "main.ink"), ("text", .str "")])
        ⟨.root, ["proj", "main.ink"]⟩ "" := by
      refine ⟨⟨"main.ink", _, rfl, by decide, hconfine, ?_⟩, rfl, ?_⟩
      · rw [Index.key, hbase]
        decide
      · rw [hlimit]
        decide
    have hread : ReadsAs session updateMain ⟨"edit", "ink.update",
        Fields.ofList [("path", .str "main.ink"), ("text", .str "")]⟩ :=
      ⟨"edit", session.usedIds, rfl, rfl⟩
    refine ⟨session, _, rfl, hanchor, hread, rfl, hadmitted, ?_, ?_⟩
    · rw [Index.entry?, List.length_eq_zero_iff.mp hfiles]
      rfl
    · exact ((request_changes_at_most_one_entry session sampleMoment updateMain hanchor).2 _
        hread rfl).2.2.1 _ _ hadmitted |>.1

end StoryAtlas.Proofs
