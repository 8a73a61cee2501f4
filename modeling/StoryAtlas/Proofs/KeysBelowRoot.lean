import StoryAtlas.Proofs.ScopePreorder
import StoryAtlas.Proofs.ServerRuns
import StoryAtlas.Proofs.TidyJson

/-!
# Keys below the project root

Whatever requests a server gets, and however the files and the links of the project change, the keys
of its index stay below the project root. So do the files that a story includes, unless the story
stands at the root itself, and the paths in replies are relative and do not climb.
-/

namespace StoryAtlas.Proofs
open StoryAtlas.Disk StoryAtlas.Story

/-- The text is that of a relative path that does not climb. -/
def RelativeText (s : String) : Prop :=
  (Path.ofString s).anchor = .relative ∧ ".." ∉ (Path.ofString s).parts

/-- The path in a result is relative and does not climb, and so is every path of a scope in it. -/
def ShowsBelow (result : Fields) : Prop :=
  (∀ s, result.get? "path" = some (.str s) → RelativeText s) ∧
    ∀ items, result.get? "scope" = some (.arr items) →
      ∀ item ∈ items, ∃ s, item = .str s ∧ RelativeText s

/-- The disk of a session is in order, and its entries are stories below the project root. -/
structure Housed (session : Session) : Prop where
  disk : Grounded session.config.projectRoot session.disk
  entries : ∀ k file, (k, file) ∈ session.index.files →
    Below session.config.projectRoot k ∧ ∃ text, file = StoryFile.read k text

lemma below_include {root k : Path} {text : String} {target : Path} (hroot : root.anchor = .root)
    (hk : Below root k) (hne : k ≠ root) (h : target ∈ (StoryFile.read k text).includes) :
    Below root target := by
  obtain ⟨name, hname, hup, rfl⟩ := mem_includes k target text h
  have hparts : root.parts ≠ k.parts := by
    intro heq
    apply hne
    obtain ⟨anchor, parts⟩ := k
    obtain ⟨rootAnchor, rootParts⟩ := root
    exact Path.mk.injEq .. |>.mpr ⟨hk.anchored.trans hroot.symm, heq.symm⟩
  refine ⟨hk.anchored, ?_, ?_⟩
  · rcases List.eq_nil_or_concat' k.parts with hnil | ⟨parent, last, hlast⟩
    · have hwithin := hk.within
      rw [hnil, List.prefix_nil] at hwithin
      exact absurd (hwithin.trans hnil.symm) hparts
    · have hwithin := hk.within
      rw [hlast] at hwithin hparts
      have habove := (List.prefix_concat_iff.mp hwithin).resolve_left hparts
      simp only [Path.child, Path.parent, hlast, List.dropLast_concat]
      exact habove.trans (List.prefix_append parent [name])
  · refine List.forall_mem_append.mpr ⟨fun part hpart => ?_, by simpa using ⟨hname, hup⟩⟩
    exact hk.plain part (List.dropLast_subset _ hpart)

section Session

variable {session : Session} (hhoused : Housed session)

include hhoused

lemma relativeText_display {k : Path} (hk : Below session.config.projectRoot k) :
    RelativeText (session.display k) := by
  have hwithin : session.config.projectRoot.isWithin k = true := by
    simp [Path.isWithin, hhoused.disk.root.anchored, hk.anchored, hk.within]
  have hplain : ∀ part ∈ (session.config.projectRoot.below k).parts, IsPlain part :=
    fun part hpart => hk.plain part (List.mem_of_mem_drop hpart)
  unfold RelativeText Session.display
  dsimp only
  rw [if_pos hwithin, ofString_render _ fun part hpart => (hplain part hpart).1]
  exact ⟨rfl, fun hup => (hplain ".." hup).2 rfl⟩

lemma below_of_pathFor {tool : Tool} {arguments : Fields} {p : Path}
    (h : session.pathFor tool arguments = .ok p) : Below session.config.projectRoot p := by
  obtain ⟨candidate, q, _, _, hconfine, rfl⟩ := (pathFor_eq_ok_iff session tool arguments p).mp h
  have hq := below_of_confine hhoused.disk hconfine
  rwa [Index.key, canonical_of_below hq]

lemma path_of_entry {k : Path} {file : StoryFile} (h : session.index.entry? k = some file) :
    Below session.config.projectRoot k ∧ file.path = k := by
  obtain ⟨hk, text, rfl⟩ := hhoused.entries k file (mem_of_lookup_eq_some _ _ _ h)
  exact ⟨hk, rfl⟩

lemma below_of_entry {k : Path} {file : StoryFile} (h : session.index.entry? k = some file) :
    Below session.config.projectRoot file.path := by
  obtain ⟨hk, hpath⟩ := path_of_entry hhoused h
  rwa [hpath]

lemma below_of_mem_includeScope {p k : Path} (h : k ∈ session.index.includeScope p) :
    Below session.config.projectRoot k := by
  obtain ⟨hknown, _⟩ := (mem_includeScope_iff session.index p k).mp h
  obtain ⟨file, hfile⟩ := Option.isSome_iff_exists.mp hknown
  exact (path_of_entry hhoused hfile).1

lemma below_of_definition? {name : String} {p : Path} {line : Int} {location : Location}
    (h : session.index.definition? name p line = some location) :
    Below session.config.projectRoot location.path := by
  have hknots : ∀ path, ∀ target ∈ ((session.index.entry? path).map knotTargets).getD [],
      Below session.config.projectRoot target.path := by
    intro path target htarget
    cases hentry : session.index.entry? path with
    | none => simp [hentry] at htarget
    | some file =>
      simp only [hentry, Option.map_some, Option.getD_some] at htarget
      obtain ⟨found, _, rfl⟩ := List.mem_map.mp htarget
      exact below_of_entry hhoused hentry
  have haround : ∀ around, session.index.enclosing? p line = some around →
      Below session.config.projectRoot around.file.path := by
    intro around haround
    unfold Index.enclosing? at haround
    split at haround
    · cases haround
    · next file hget =>
      have hfile : around.file = file := by
        unfold StoryFile.enclosing? at haround
        split at haround
        · cases haround
        · split at haround
          · cases haround
          · obtain rfl := Option.some.inj haround
            rfl
      rw [hfile]
      exact below_of_entry hhoused hget
  have htargets : ∀ target ∈ session.index.diverts p line,
      Below session.config.projectRoot target.path := by
    intro target htarget
    unfold Index.diverts at htarget
    dsimp only at htarget
    split at htarget
    · obtain ⟨path, _, hmem⟩ := List.mem_flatMap.mp htarget
      exact hknots path target hmem
    · next around hfound =>
      rcases List.mem_append.mp htarget with hmem | hmem
      · rcases List.mem_append.mp hmem with hmem | hmem
        · obtain ⟨path, _, hmem⟩ := List.mem_flatMap.mp hmem
          exact hknots path target hmem
        · obtain ⟨found, _, rfl⟩ := List.mem_map.mp hmem
          exact haround around hfound
      · obtain ⟨found, _, rfl⟩ := List.mem_map.mp hmem
        exact haround around hfound
  unfold Index.definition? at h
  split_ifs at h
  obtain ⟨target, htarget, rfl⟩ := Option.map_eq_some_iff.mp h
  exact htargets target (List.mem_of_find?_eq_some htarget)

/-! ### Results -/

lemma showsBelow_outline {arguments result : Fields}
    (h : session.askOutline arguments = .ok result) : ShowsBelow result := by
  unfold Session.askOutline at h
  split at h
  · cases h
  split at h
  · cases h
  · next file hget =>
    obtain rfl := Except.ok.inj h
    have hpath : (session.outlineResult file).get? "path" =
        some (.str (session.display file.path)) := by
      simp [Session.outlineResult, Fields.ofList, Fields.insertAll, get?_insert]
    have hscope : (session.outlineResult file).get? "scope" = none :=
      get?_ofList_of_notMem _ _ (by simp)
    refine ⟨fun s hs => ?_, fun items hitems => by simp [hscope] at hitems⟩
    obtain rfl : session.display file.path = s := by simpa [hpath] using hs
    exact relativeText_display hhoused (below_of_entry hhoused hget)

lemma showsBelow_scope {arguments result : Fields}
    (h : session.askScope arguments = .ok result) : ShowsBelow result := by
  unfold Session.askScope at h
  split at h
  · cases h
  · next p hp =>
    obtain rfl := Except.ok.inj h
    have hpath : (session.scopeResult p).get? "path" = some (.str (session.display p)) := by
      simp [Session.scopeResult, Fields.ofList, Fields.insertAll, get?_insert]
    have hscope : (session.scopeResult p).get? "scope" =
        some (.strings ((session.index.includeScope p).map session.display)) := by
      simp [Session.scopeResult, Fields.ofList, Fields.insertAll, get?_insert]
    constructor
    · intro s hs
      obtain rfl : session.display p = s := by simpa [hpath] using hs
      exact relativeText_display hhoused (below_of_pathFor hhoused hp)
    · intro items hitems item hitem
      obtain rfl := Json.arr.inj (Option.some.inj (hscope.symm.trans hitems))
      obtain ⟨s, hs, rfl⟩ := List.mem_map.mp hitem
      obtain ⟨k, hk, rfl⟩ := List.mem_map.mp hs
      exact ⟨_, rfl, relativeText_display hhoused (below_of_mem_includeScope hhoused hk)⟩

lemma showsBelow_definition {arguments result : Fields}
    (h : session.askDefinition arguments = .ok result) : ShowsBelow result := by
  unfold Session.askDefinition at h
  split at h
  · cases h
  split at h
  · cases h
  split at h
  · cases h
  next p hp line hline name hname =>
  obtain rfl := Except.ok.inj h
  unfold Session.definitionResult
  split
  · refine ⟨fun s hs => ?_, fun items hitems => ?_⟩
    · simp [Fields.ofList, Fields.insertAll, get?_insert] at hs
    · rw [get?_ofList_of_notMem _ _ (by simp)] at hitems
      cases hitems
  · next location hfound =>
    obtain ⟨wanted, _, hdefinition⟩ := Option.bind_eq_some_iff.mp hfound
    refine ⟨fun s hs => ?_, fun items hitems => ?_⟩
    · obtain rfl : session.display location.path = s := by
        simpa [Fields.ofList, Fields.insertAll, get?_insert] using hs
      exact relativeText_display hhoused (below_of_definition? hhoused hdefinition)
    · rw [get?_ofList_of_notMem _ _ (by simp)] at hitems
      cases hitems

/-- The tools that answer with the path of a story. -/
def showsPath : Tool → Bool
  | .outline | .definition | .includeScope => true
  | _ => false

lemma showsBelow_run {now : Moment} {tool : Tool} {arguments result : Fields}
    (htool : showsPath tool = true) (h : (session.run now tool arguments).2 = .ok result) :
    ShowsBelow result := by
  cases tool with
  | outline => exact showsBelow_outline hhoused h
  | definition => exact showsBelow_definition hhoused h
  | includeScope => exact showsBelow_scope hhoused h
  | status | buildIndex | update | complete | auditLog => cases htool

lemma showsBelow_answer {now : Moment} {request : Request} {tool : Tool}
    (hname : request.tool = tool.name) (htool : showsPath tool = true)
    (hok : (session.answer now request).2.ok = true) :
    ShowsBelow (session.answer now request).2.result := by
  unfold Session.answer at hok ⊢
  rw [(get?_all_iff request.tool tool).mpr hname] at hok ⊢
  dsimp only at hok ⊢
  split at hok
  · next after result hrun =>
    have hshown := showsBelow_run hhoused htool (by rw [hrun])
    unfold Session.replyWith at hok ⊢
    dsimp only at hok ⊢
    split_ifs at hok ⊢
    · cases hok
    · have hkept : ∀ key, key ≠ warningsKey →
          ((splitWarnings result).2).get? key = result.get? key :=
        fun key hkey => get?_erase_of_ne result warningsKey key hkey
      unfold ShowsBelow Reply.success
      rw [hkept "path" (by decide), hkept "scope" (by decide)]
      exact hshown
  · next after failure hrun => cases failure <;> cases hok

end Session

/-! ### Whole runs -/

lemma housed_reached (first session : Session) (hfirst : first.index.files = [])
    (hdata : Spelled first.config.dataDir)
    (hdisk : Grounded first.config.projectRoot first.disk)
    (h : Reached (Grounded first.config.projectRoot) first session) : Housed session := by
  have hgrounded := fun before => grounded_reached first before hdata hdisk
  refine ⟨?_, fun k file hmem => ?_⟩
  · rw [config_reached h]
    exact hgrounded session h
  · obtain ⟨before, call, text, hread, hbefore, _, _, horigin⟩ :=
      exists_origin _ first session hfirst h hgrounded k file hmem
    have hdiskBefore := hgrounded before hbefore
    rw [← config_reached hbefore] at hdiskBefore
    have hbelow := below_of_origin hdiskBefore horigin
    rw [config_reached hbefore, ← config_reached h] at hbelow
    exact ⟨hbelow, text, hread⟩

/-- However a server is called and the disk changes, as long as the project root stays a real
directory, the keys stay below the root, with the stories that they include unless the key is the
root itself; and the paths that are shown are relative and do not climb. -/
theorem keys_stay_below_root (first session : Session) (hfirst : first.index.files = [])
    (hdata : Spelled first.config.dataDir)
    (hdisk : Grounded first.config.projectRoot first.disk)
    (h : Reached (Grounded first.config.projectRoot) first session) :
    (∀ k file, (k, file) ∈ session.index.files →
      Below first.config.projectRoot k ∧
        ∀ target ∈ file.includes, k = first.config.projectRoot ∨
          Below first.config.projectRoot target) ∧
    ∀ now payload request tool reply, ReadsAs session payload request →
      request.tool = tool.name → showsPath tool = true →
      (session.handlePayload now payload).2 = .ok reply → reply.ok = true →
        ShowsBelow reply.result := by
  have hhoused := housed_reached first session hfirst hdata hdisk h
  rw [← config_reached h]
  constructor
  · intro k file hmem
    obtain ⟨hk, text, rfl⟩ := hhoused.entries k file hmem
    refine ⟨hk, fun target htarget => ?_⟩
    by_cases hroot : k = session.config.projectRoot
    · exact Or.inl hroot
    · exact Or.inr (below_include hhoused.disk.root.anchored hk hroot htarget)
  · rintro now payload request tool reply ⟨id, used, hid, hread⟩ hname htool hreply hok
    simp only [Session.handlePayload, hid, hread] at hreply
    obtain rfl := reply_of_audit _ now _ _ _ _ reply hreply
    have hnumbered : Housed { session with usedIds := used } :=
      ⟨hhoused.disk, hhoused.entries⟩
    exact showsBelow_answer hnumbered hname htool hok

/-- A project with a story in a directory, and a link to the directory. -/
def linkedStory : Entries :=
  [("in", .link "story"), ("story", .dir [("main.ink", .file ⟨#[]⟩)])]

lemma proper_linkedStory : Proper (.dir ((".ink_index", .dir []) :: linkedStory)) := by
  have hstory : Proper (.dir [("main.ink", .file ⟨#[]⟩)]) :=
    .dir _ (by decide) (by simp) (by simp)
  exact .dir _ (by decide) (by decide) (by simp [linkedStory, hstory])

def updateLinked : Json :=
  .object [("method", .str "ink.update"),
    ("params", .object [("path", .str "in/main.ink"), ("text", .str "INCLUDE side.ink")])]

def scopeLinked : Json :=
  .object [("method", .str "ink.include_scope"),
    ("params", .object [("path", .str "in/main.ink")])]

/-- The server as it is when the story has come to the project and was updated through the link. -/
def linkedSession : Session :=
  Call.apply { projectSession [] with disk := (projectSession linkedStory).disk }
    (.payload sampleMoment updateLinked)

lemma files_linkedSession : linkedSession.index.files =
    [(⟨.root, ["proj", "story", "main.ink"]⟩,
      StoryFile.read ⟨.root, ["proj", "story", "main.ink"]⟩ "INCLUDE side.ink")] := by
  decide +kernel

lemma ok_scopeLinked :
    (linkedSession.handlePayload sampleMoment scopeLinked).2.toOption.map Reply.ok = some true := by
  decide +kernel

theorem keys_stay_below_root_linked :
    ∃ reply, (projectSession []).index.files = [] ∧
      Spelled (projectSession []).config.dataDir ∧
      Grounded ⟨.root, ["proj"]⟩ (projectSession []).disk ∧
      Reached (Grounded ⟨.root, ["proj"]⟩) (projectSession []) linkedSession ∧
      linkedSession.index.files.map Prod.fst = [⟨.root, ["proj", "story", "main.ink"]⟩] ∧
      Below ⟨.root, ["proj"]⟩ ⟨.root, ["proj", "story", "main.ink"]⟩ ∧
      Below ⟨.root, ["proj"]⟩ ⟨.root, ["proj", "story", "side.ink"]⟩ ∧
      (linkedSession.handlePayload sampleMoment scopeLinked).2 = .ok reply ∧ reply.ok = true ∧
      ShowsBelow reply.result := by
  have hfiles := files_linkedSession
  have hreply := ok_scopeLinked
  have hempty : Proper (.dir [(".ink_index", .dir [])]) :=
    .dir _ (by decide) (by simp) (by simp)
  have hdata := spelled_dataDir_projectSession []
  have hreached : Reached (Grounded ⟨.root, ["proj"]⟩) (projectSession []) linkedSession :=
    .call _ (.change _ (grounded_projectSession linkedStory proper_linkedStory) .start)
  have hdisk := grounded_projectSession [] hempty
  obtain ⟨hkeys, hshown⟩ := keys_stay_below_root _ linkedSession rfl hdata hdisk hreached
  rw [hfiles] at hkeys
  obtain ⟨hkey, htargets⟩ := hkeys _ _ List.mem_cons_self
  have hside : Below ⟨.root, ["proj"]⟩ ⟨.root, ["proj", "story", "side.ink"]⟩ :=
    (htargets _ (by decide)).resolve_left (by decide)
  cases hsent : (linkedSession.handlePayload sampleMoment scopeLinked).2 with
  | error fault => simp [hsent, Except.toOption] at hreply
  | ok reply =>
    have hok : reply.ok = true := by simpa [hsent, Except.toOption] using hreply
    refine ⟨reply, rfl, hdata, hdisk, hreached, by rw [hfiles]; rfl, hkey, hside, rfl, hok, ?_⟩
    have hread : ReadsAs linkedSession scopeLinked
        ⟨fallbackId (linkedSession.usedIds + 1), "ink.include_scope",
          Fields.ofList [("path", .str "in/main.ink")]⟩ :=
      ⟨_, _, rfl, rfl⟩
    exact hshown sampleMoment scopeLinked _ .includeScope reply hread rfl rfl hsent hok

end StoryAtlas.Proofs
