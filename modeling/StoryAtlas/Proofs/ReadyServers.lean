import StoryAtlas.Proofs.LogReads
import StoryAtlas.Proofs.LoopFreeDisks
import StoryAtlas.Proofs.MergedSettings

/-!
# Servers that are ready to answer

A server that was opened in a real directory has a project root that can be resolved at any later
time, as long as no links run in a circle or lie too deep within each other. If its journals can be
opened as well, a build and an update succeed, the journal of requests can be shown unless its
brackets are nested too deep, and a path of a request can be looked at unless it runs over links
that lie too deep, or looks like a drive and is overlong.
-/

namespace StoryAtlas.Proofs
open StoryAtlas.Disk StoryAtlas.Story

/-! ### The project root -/

/-- The path is absolute and can be spelled and given to the system. -/
structure Rooted (p : Path) : Prop where
  anchored : p.anchor ≠ .relative
  spelled : Spelled p
  nulFree : NulFree p.parts

lemma rooted_resolve {disk : Disk} {p q : Path} (hcwd : IsRealDir disk disk.cwd)
    (hp : Spelled p) (h : disk.resolve p = .ok q) : Rooted q := by
  have hbase : Spelled disk.cwd := fun part hpart => (hcwd.plain part hpart).1
  refine ⟨?_, spelled_resolve disk p q hbase hp h, ?_⟩
  · obtain ⟨found, _, rfl⟩ := resolve_eq_ok p q h
    cases found <;> exact under_anchor_ne disk.cwd _ (by simp [hcwd.anchored])
  · exact (hasNul_eq_false_iff q).mp (hasNul_of_resolve h)

lemma rooted_load {disk : Disk} {root : Path} {overrides : Overrides} {config : Config}
    (hcwd : IsRealDir disk disk.cwd) (hroot : Spelled root)
    (h : Config.load disk root overrides = .ok config) : Rooted config.projectRoot := by
  unfold Config.load Config.defaultAt at h
  split at h
  · cases h
  · next base hbase =>
    split at hbase
    · next resolved hresolve =>
      obtain rfl := Except.ok.inj hbase
      split at h
      · cases h
      · rw [projectRoot_merge h]
        exact rooted_resolve hcwd hroot hresolve
    · cases hbase

/-- The project root of a server that was opened in a real directory. -/
lemma rooted_openProject {disk : Disk} {root : String} {dataDir : Option Path}
    {overrides : Overrides} {first : Session} (hcwd : IsRealDir disk disk.cwd)
    (h : Session.openProject disk (Path.ofString root) dataDir overrides = .ok first) :
    Rooted first.config.projectRoot := by
  unfold Session.openProject at h
  split at h
  · cases h
  split at h
  · cases h
  next resolved hresolve =>
  split at h
  · cases h
  next config hload =>
  have hrooted := rooted_load hcwd (rooted_resolve hcwd (spelled_ofString root) hresolve).spelled
    hload
  unfold Session.start at h
  dsimp only at h
  split at h
  · cases h
  split at h
  · cases h
  obtain rfl := Except.ok.inj h
  exact hrooted

/-! ### Sessions that can answer -/

/-- Nothing in a journal is beyond the limits but brackets: no whole number is too long, and no
record has half a surrogate pair. -/
structure PlainLog (room : Nat) (text : String) : Prop where
  numbers : ∀ refusal, Journal.records room text = .error refusal → refusal = .tooDeep
  texts : ∀ found, Journal.records room text = .ok found →
    ∀ record ∈ found, ∃ value, (RawJson.obj record).toJson? = some value

/-- Both journals can be opened, each as a file or where one can be created, and the journal of
requests is a text with nothing beyond the limits but brackets. -/
structure LogsOpen (session : Session) (room : Nat) : Prop where
  audit : ∃ place, ∃ text : String, FilePlace session.disk session.auditFile place ∧
    bytesAt session.disk.tree place = text.toUTF8 ∧ PlainLog room text
  index : ∃ place, FilePlace session.disk session.indexFile place

/-- A line of the journal of requests has more brackets within each other than the stack has room
for. -/
def HasDeepLog (session : Session) (room : Nat) : Prop :=
  ∃ place, ∃ text : String, FilePlace session.disk session.auditFile place ∧
    bytesAt session.disk.tree place = text.toUTF8 ∧ Journal.records room text = .error .tooDeep

/-- What a server needs in order to answer. -/
structure Ready (session : Session) (room : Nat) : Prop where
  root : Rooted session.config.projectRoot
  disk : Sound session.disk
  loops : LoopFree session.disk
  logs : LogsOpen session room

section Ready

variable {session : Session} {room : Nat} (hready : Ready session room)

include hready

lemma root_resolved_or_tooDeep :
    (∃ root, session.disk.resolve session.config.projectRoot = .ok root) ∨
      LinksTooDeep session.disk session.config.projectRoot := by
  rcases resolve_ok_or_fails hready.disk hready.loops _ hready.root.spelled hready.root.nulFree
    with hok | ⟨hrelative, _⟩ | hdeep
  · exact Or.inl hok
  · exact absurd hrelative hready.root.anchored
  · exact Or.inr hdeep

end Ready

/-! ### Paths of requests -/

/-- Where a path of a request is sought: as it is if it looks like a drive, and else as it is seen
from the root. -/
def soughtFrom (root : Path) (candidate : String) : Path :=
  if hasDrive (forwardSlashes candidate).toList then Path.ofString (forwardSlashes candidate)
  else root.under (Path.ofString (forwardSlashes candidate))

/-- The path looks like a drive and is overlong. -/
def IsOverlong (disk : Disk) (candidate : String) : Prop :=
  hasDrive (forwardSlashes candidate).toList = true ∧
    Overlong disk (Path.ofString (forwardSlashes candidate))

/-- The project root, or from there the path, is sought over links that are too deep. -/
def IsTooDeep (session : Session) (candidate : String) : Prop :=
  LinksTooDeep session.disk session.config.projectRoot ∨
    ∃ root, session.disk.resolve session.config.projectRoot = .ok root ∧
      LinksTooDeep session.disk (soughtFrom root candidate)

/-- The arguments name a path that looks like a drive and is overlong. -/
def AsksOverlong (disk : Disk) (arguments : Fields) : Prop :=
  ∃ candidate, arguments.get? "path" = some (.str candidate) ∧ IsOverlong disk candidate

/-- The arguments name a path that is sought over links that are too deep. -/
def AsksTooDeep (session : Session) (arguments : Fields) : Prop :=
  ∃ candidate, arguments.get? "path" = some (.str candidate) ∧ IsTooDeep session candidate

section Ready

variable {session : Session} {room : Nat} (hready : Ready session room)

include hready

/-- A path fails to be looked at only if it looks like a drive and is overlong, or is sought over
links that are too deep. -/
lemma confine_fault {candidate : String} {fault : Fault} (hnul : Char.ofNat 0 ∉ candidate.toList)
    (h : confine session.disk session.config.projectRoot candidate = .error (.disk fault)) :
    IsOverlong session.disk candidate ∨ IsTooDeep session candidate := by
  obtain ⟨root, hroot⟩ | hdeep := root_resolved_or_tooDeep hready
  swap
  · exact Or.inr (Or.inl hdeep)
  have hrooted := rooted_resolve hready.disk.cwd hready.root.spelled hroot
  have hspelled := spelled_ofString (forwardSlashes candidate)
  have htext : NulFree (Path.ofString (forwardSlashes candidate)).parts := by
    apply nulFree_ofString
    rw [forwardSlashes, String.toList_ofList, List.mem_map]
    rintro ⟨c, hc, heq⟩
    split_ifs at heq with hslash
    · revert heq
      decide
    · exact hnul (heq ▸ hc)
  have hadmit : ∀ p refusal, admitWithin session.disk root p refusal = .error (.disk fault) →
      Spelled p → NulFree p.parts → Overlong session.disk p ∨ LinksTooDeep session.disk p := by
    intro p refusal hadmit hp hfree
    rcases resolve_ok_or_fails hready.disk hready.loops p hp hfree with ⟨q, hq⟩ | hfails
    · unfold admitWithin at hadmit
      rw [hq] at hadmit
      dsimp only at hadmit
      split_ifs at hadmit
      cases hadmit
    · exact hfails
  unfold confine confineBelow at h
  rw [hroot] at h
  dsimp only at h
  split_ifs at h with hblank hanchored hup
  · cases h
  · rcases hadmit _ _ h hspelled htext with hlong | hdeep
    · exact Or.inl ⟨hanchored.resolve_left fun habsolute => habsolute hlong.1, hlong⟩
    · refine Or.inr (Or.inr ⟨root, hroot, ?_⟩)
      unfold soughtFrom
      split_ifs with hdrive
      · exact hdeep
      · rwa [Path.under, if_neg (hanchored.resolve_right hdrive)]
  · cases h
  · have hunder := hadmit _ _ h (spelled_under root _ hrooted.spelled hspelled)
      (nulFree_under root _ hrooted.nulFree htext)
    rcases hunder with hlong | hdeep
    · exact absurd hlong.1 (under_anchor_ne root _ hrooted.anchored)
    · refine Or.inr (Or.inr ⟨root, hroot, ?_⟩)
      rwa [soughtFrom, if_neg fun hdrive => hanchored (Or.inr hdrive)]

lemma pathFor_fault {tool : Tool} {arguments : Fields} {fault : Fault}
    (hnul : ∀ candidate, arguments.get? "path" = some (.str candidate) →
      Char.ofNat 0 ∉ candidate.toList)
    (h : session.pathFor tool arguments = .error (.disk fault)) :
    AsksOverlong session.disk arguments ∨ AsksTooDeep session arguments := by
  unfold Session.pathFor pathArgument at h
  split at h
  · next e he =>
    split at he
    · split_ifs at he
      obtain rfl := Except.error.inj he
      cases h
    · obtain rfl := Except.error.inj he
      cases h
  · next candidate hcandidate =>
    split at hcandidate
    · next found hfound =>
      split_ifs at hcandidate
      obtain rfl := Except.ok.inj hcandidate
      split at h
      · cases h
      · next fault' hconfine =>
        rcases confine_fault hready (hnul found hfound) hconfine with hlong | hdeep
        · exact Or.inl ⟨found, hfound, hlong⟩
        · exact Or.inr ⟨found, hfound, hdeep⟩
      · cases h
    · cases hcandidate

end Ready

section Stopped

variable {session : Session} {root : Path} {candidate : String} {fault : Fault}

lemma confine_of_overlong
    (hroot : session.disk.resolve session.config.projectRoot = .ok root)
    (h : IsOverlong session.disk candidate) :
    confine session.disk session.config.projectRoot candidate = .error (.disk .linkLoop) := by
  obtain ⟨hdrive, hlong⟩ := h
  have hcolon : Text.isBlank ':' = false := by decide
  have hblank : Text.isBlankText (forwardSlashes candidate) = false := by
    unfold Text.isBlankText
    unfold hasDrive at hdrive
    split at hdrive
    · next c rest htext => simp [htext, hcolon]
    · cases hdrive
  unfold confine confineBelow
  rw [hroot]
  dsimp only
  rw [hblank, if_neg (by simp), if_pos (Or.inr hdrive), admitWithin, resolve_of_overlong hlong]

lemma pathFor_of_confine (tool : Tool) {arguments : Fields}
    (hget : arguments.get? "path" = some (.str candidate)) (hne : candidate ≠ "")
    (h : confine session.disk session.config.projectRoot candidate = .error (.disk fault)) :
    session.pathFor tool arguments = .error (.disk fault) := by
  unfold Session.pathFor pathArgument
  rw [hget]
  dsimp only
  rw [if_neg hne]
  dsimp only
  rw [h]

end Stopped

/-! ### Journals -/

lemma emit_ok {session : Session} {place : List String} (now : Moment) (event : Event)
    (h : FilePlace session.disk session.indexFile place) :
    ∃ after, session.emit now event = .ok after ∧
      FilePlace after.disk after.indexFile place := by
  have happend := append_of_filePlace session.disk session.indexFile place
    ((event.record now.timestamp).toJson.render ++ "\n").toUTF8 h
  have hp := parts_indexFile session
  refine ⟨{ session with disk := _ }, ?_, filePlace_appendsTo hp ⟨_, happend⟩ hp h⟩
  unfold Session.emit Journal.append
  rw [refusal?_nil]
  dsimp only
  rw [happend]

lemma emitAll_ok {session : Session} {place : List String} (now : Moment) (events : List Event)
    (h : FilePlace session.disk session.indexFile place) :
    ∃ after, session.emitAll now events = (after, .ok ()) ∧
      FilePlace after.disk after.indexFile place := by
  induction events generalizing session with
  | nil => exact ⟨session, rfl, h⟩
  | cons event events ih =>
    obtain ⟨noted, hemit, hplace⟩ := emit_ok now event h
    obtain ⟨after, hall, hafter⟩ := ih hplace
    refine ⟨after, ?_, hafter⟩
    unfold Session.emitAll
    rw [hemit]
    exact hall

lemma itemsToJson?_isSome {items : List RawJson}
    (h : ∀ item ∈ items, ∃ value, item.toJson? = some value) :
    ∃ values, RawJson.itemsToJson? items = some values := by
  induction items with
  | nil => exact ⟨[], rfl⟩
  | cons item items ih =>
    obtain ⟨⟨value, hvalue⟩, hitems⟩ := List.forall_mem_cons.mp h
    obtain ⟨values, hvalues⟩ := ih hitems
    exact ⟨value :: values, by rw [RawJson.itemsToJson?, hvalue, hvalues]⟩

lemma mem_of_mem_newest {limit : Int} {since : Option String} {found : List RawFields}
    {record : RawFields} (h : record ∈ Journal.newest limit (Journal.select since found)) :
    record ∈ found := by
  have hselected := List.mem_of_mem_drop h
  cases since with
  | none => exact hselected
  | some since => exact List.mem_of_mem_filter hselected

lemma limitArgument_bounds (arguments : Fields) :
    1 ≤ limitArgument arguments ∧ limitArgument arguments ≤ Journal.maxLimit := by
  unfold limitArgument Journal.maxLimit
  dsimp only
  omega

/-- The journal of requests is shown, unless a line of it has too many brackets. -/
lemma askAuditLog_ok {session : Session} {now : Moment} (h : LogsOpen session now.logRoom)
    (arguments : Fields) : (∃ result, session.askAuditLog now arguments = .ok result) ∨
      HasDeepLog session now.logRoom := by
  obtain ⟨place, text, hplace, htext, hplain⟩ := h.audit
  obtain ⟨hlow, hhigh⟩ := limitArgument_bounds arguments
  cases hrecords : Journal.records now.logRoom text with
  | error refusal =>
    obtain rfl := hplain.numbers refusal hrecords
    exact Or.inr ⟨place, text, hplace, htext, hrecords⟩
  | ok found =>
    left
    have hread := read_of_records hplace htext (sinceArgument arguments) hhigh hrecords
    have hshown : ∃ entries, RawJson.itemsToJson? ((Journal.newest (limitArgument arguments)
        (Journal.select (sinceArgument arguments) found)).map RawJson.obj) = some entries := by
      refine itemsToJson?_isSome fun item hitem => ?_
      obtain ⟨record, hrecord, rfl⟩ := List.mem_map.mp hitem
      exact hplain.texts found hrecords record (mem_of_mem_newest hrecord)
    obtain ⟨entries, hentries⟩ := hshown
    unfold Session.askAuditLog Session.auditEntries Session.entriesResult
    rw [hread]
    dsimp only
    rw [hentries]
    exact ⟨_, rfl⟩

/-! ### Builds -/

section Ready

variable {session : Session} {room : Nat} (hready : Ready session room)

include hready

/-- The files that a search finds can be given to the system. -/
lemma nulFree_discovered {root : Path} {pruned below : List String}
    (h : below ∈ filesIn session.disk pruned root) : NulFree below := by
  obtain ⟨⟨entries, content, hnode, hget⟩, _⟩ := (mem_filesIn_iff hready.disk.tree _ _ _).mp h
  obtain ⟨place, hplace⟩ := nodeAt_get? session.disk .target root _ hnode
  exact (nulFreeTree_get? _ _ _ (nulFreeTree_get? _ _ _ hready.disk.texts hplace).1 hget).2

lemma exists_harvest {root : Path}
    (hroot : session.disk.resolve session.config.projectRoot = .ok root) : ∃ found harvest,
    discover session.disk session.config.filter session.config.projectRoot = .ok found ∧
    session.index.gather session.disk session.config.limits.maxFileBytes found.paths =
      .ok harvest := by
  obtain ⟨found, hfound⟩ : ∃ found,
      discover session.disk session.config.filter session.config.projectRoot = .ok found :=
    ⟨_, (discover_eq_ok_iff _ _ _ _).mpr ⟨root, hroot, rfl⟩⟩
  have hkeys : ∀ k ∈ session.index.keys found.paths, hasNul k = false := by
    intro k hk
    obtain ⟨p, hp, rfl⟩ := List.mem_map.mp (List.mem_eraseDups.mp hk)
    obtain ⟨root', hroot', below, hbelow, _, rfl⟩ := exists_of_mem_discover hfound hp
    have hrooted := rooted_resolve hready.disk.cwd hready.root.spelled hroot'
    have hparts : NulFree (root'.parts ++ below) :=
      nulFree_append hrooted.nulFree (nulFree_discovered hready hbelow)
    have hcanonical := nulFree_canonical session.disk.cwd (root'.descend below)
      (nulFree_cwd hready.disk) hparts
    have hanchor : (Path.canonical session.disk.cwd (root'.descend below)).anchor ≠ .relative :=
      under_anchor_ne _ _ (by simp [hready.disk.cwd.anchored])
    -- the path is absolute, so the directory from which the index sees it does not matter
    rw [hasNul_eq_false_iff, Index.key, Path.canonical, Path.under, if_neg hanchor]
    exact nulFree_of_subset hcanonical fun _ hpart => (mem_climb hpart).1
  obtain ⟨harvest, hgather, _⟩ := gather_of_forall_not_hasNul session.disk
    session.config.limits.maxFileBytes _ hkeys
  exact ⟨_, harvest, hfound, hgather⟩

lemma build_ok {root : Path}
    (hroot : session.disk.resolve session.config.projectRoot = .ok root) (now : Moment) :
    ∃ report, (session.build now).2 = .ok report := by
  obtain ⟨found, harvest, hfound, hgather⟩ := exists_harvest hready hroot
  obtain ⟨place, hplace⟩ := hready.logs.index
  obtain ⟨noted, hall, hnoted⟩ := emitAll_ok now harvest.failureEvents hplace
  let merged : Session := { noted with index := noted.index.merge harvest.loaded now.timestamp }
  have hmerged : FilePlace merged.disk merged.indexFile place := hnoted
  obtain ⟨after, hemit, _⟩ := emit_ok now (harvest.buildEvent now.buildMs) hmerged
  refine ⟨harvest.report now.timestamp now.buildMs, ?_⟩
  simp only [Session.build, hfound, hgather, Session.commit, hall, merged] at hemit ⊢
  rw [hemit]

lemma update_ok (now : Moment) (p : Path) (text : String) :
    ∃ file, (session.update now p text).2 = .ok file := by
  obtain ⟨place, hplace⟩ := hready.logs.index
  have hupdated : FilePlace { session with index := (session.index.update p text).1 }.disk
      { session with index := (session.index.update p text).1 }.indexFile place := hplace
  obtain ⟨after, hemit, _⟩ :=
    emit_ok now (Index.updateEvent (session.index.update p text).2) hupdated
  refine ⟨(session.index.update p text).2, ?_⟩
  simp only [Session.update, hemit]

end Ready

end StoryAtlas.Proofs
