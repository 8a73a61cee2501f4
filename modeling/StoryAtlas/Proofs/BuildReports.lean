import StoryAtlas.Proofs.CanonicalKeys
import StoryAtlas.Proofs.LoopFreeDisks
import StoryAtlas.Proofs.SavedFiles

/-!
# Reports on builds

A build asks for each of its files once, by its canonical path. The report tells of each whether it
was loaded, in the order in which they were asked for: a loaded file is filed with the text that its
bytes spell now, and one that failed is filed as before, unless the last build had loaded it. The
events tell the same as the report.
-/

namespace StoryAtlas.Proofs
open StoryAtlas.Disk StoryAtlas.Story

/-- The loaded paths and the failed ones share the asked ones out among them, in the order of the
asked ones. -/
structure SharedOut (asked loaded failed : List Path) : Prop where
  nodup : asked.Nodup
  loaded_sublist : loaded.Sublist asked
  failed_sublist : failed.Sublist asked
  disjoint : loaded.Disjoint failed
  exhaustive : ∀ p ∈ asked, p ∈ loaded ∨ p ∈ failed

/-- The file at the path can be read as a story. -/
def canRead (disk : Disk) (maxBytes : Int) (p : Path) : Bool :=
  match disk.readStory maxBytes p with
  | .ok (.ok _) => true
  | _ => false

lemma canRead_iff (disk : Disk) (maxBytes : Int) (p : Path) :
    canRead disk maxBytes p = true ↔ ∃ text, disk.readStory maxBytes p = .ok (.ok text) := by
  unfold canRead
  split
  · next text hread => simp [hread]
  · next hother =>
    simp only [Bool.false_eq_true, false_iff, not_exists]
    exact hother

lemma sharedOut_filter (asked : List Path) (isLoaded : Path → Bool) (h : asked.Nodup) :
    SharedOut asked (asked.filter isLoaded) (asked.filter fun p => !isLoaded p) where
  nodup := h
  loaded_sublist := List.filter_sublist
  failed_sublist := List.filter_sublist
  disjoint := by
    intro p hp hnot
    have hloaded := (List.mem_filter.mp hp).2
    have hfailed := (List.mem_filter.mp hnot).2
    simp [hloaded] at hfailed
  exhaustive := by
    intro p hp
    cases hread : isLoaded p with
    | true => exact Or.inl (List.mem_filter.mpr ⟨hp, hread⟩)
    | false => exact Or.inr (List.mem_filter.mpr ⟨hp, by simp [hread]⟩)

/-- Gathering goes through the paths in order, and keeps a story or a reason for each. -/
lemma gather_eq_ok (disk : Disk) (maxBytes : Int) (paths : List Path) (harvest : Harvest)
    (h : Harvest.gather disk maxBytes paths = .ok harvest) :
    harvest.loaded.map StoryFile.path = paths.filter (canRead disk maxBytes) ∧
      harvest.failures.map Failure.path = paths.filter (fun p => !canRead disk maxBytes p) ∧
      ∀ failure ∈ harvest.failures, ∃ why,
        disk.readStory maxBytes failure.path = .ok (.error why) ∧ failure.reason = why.reason := by
  induction paths generalizing harvest with
  | nil =>
    obtain rfl := Except.ok.inj h
    exact ⟨rfl, rfl, by simp⟩
  | cons p paths ih =>
    unfold Harvest.gather at h
    split at h
    · cases h
    · next outcome hread =>
      split at h
      · cases h
      · next rest hrest =>
        obtain rfl := Except.ok.inj h
        obtain ⟨hloaded, hfailed, hreasons⟩ := ih rest hrest
        cases outcome with
        | ok text =>
          have hp : canRead disk maxBytes p = true := by simp [canRead, hread]
          rw [List.filter_cons_of_pos hp, List.filter_cons_of_neg (by simp [hp])]
          exact ⟨congrArg (p :: ·) hloaded, hfailed, hreasons⟩
        | error why =>
          have hp : canRead disk maxBytes p = false := by simp [canRead, hread]
          rw [List.filter_cons_of_neg (by simp [hp]), List.filter_cons_of_pos (by simp [hp])]
          refine ⟨hloaded, congrArg (p :: ·) hfailed, ?_⟩
          exact List.forall_mem_cons.mpr ⟨⟨why, hread, rfl⟩, hreasons⟩

lemma hasNul_canonical {base p : Path} (hbase : hasNul base = false) (hp : hasNul p = false) :
    hasNul (Path.canonical base p) = false := by
  rw [hasNul_eq_false_iff] at hbase hp ⊢
  exact nulFree_canonical base p hbase hp

/-- A build that takes place loads those of its files that it can read. -/
lemma loads_build_iff (base : Path) (disk : Disk) (maxBytes : Int) (paths : List Path)
    (timestamp : String) (durationMs : Nat) (k : Path) (text : String)
    (h : Builds base (.build disk maxBytes paths timestamp durationMs)) :
    Loads base (.build disk maxBytes paths timestamp durationMs) k text ↔
      k ∈ paths.map (Path.canonical base) ∧ disk.readStory maxBytes k = .ok (.ok text) := by
  obtain ⟨plan, hplan⟩ := h
  have heq : plan = ⟨disk, maxBytes, paths.map (Path.canonical base)⟩ := by
    simp only [Step.plan?, Plan.ofPaths?] at hplan
    split_ifs at hplan
    exact (Option.some.inj hplan).symm
  subst heq
  constructor
  · rintro ⟨plan, hplan', hreads⟩
    obtain rfl := Option.some.inj (hplan.symm.trans hplan')
    exact hreads
  · intro hreads
    exact ⟨_, hplan, hreads⟩

lemma keys_run (base : Path) (steps : List Step) (paths : List Path) :
    (run base steps).keys paths = (paths.map (Path.canonical base)).eraseDups := by
  have hkey : (run base steps).key = Path.canonical base := by
    funext p
    rw [Index.key, base_run]
  rw [Index.keys, hkey]

section Reported

variable {base : Path} {steps : List Step} {disk : Disk} {maxBytes : Int} {paths : List Path}
  {timestamp : String} {durationMs : Nat} {after : Index} {report : Report} {events : List Event}
  (hbuild : (run base steps).build disk maxBytes paths timestamp durationMs =
    .ok (after, report, events))

include hbuild

/-- What a build has gathered is what it tells. -/
lemma exists_gathered : ∃ harvest,
    Harvest.gather disk maxBytes (paths.map (Path.canonical base)).eraseDups = .ok harvest ∧
      report = harvest.report timestamp durationMs ∧
      events = harvest.failureEvents ++ [harvest.buildEvent durationMs] := by
  unfold Index.build Index.gather at hbuild
  rw [keys_run] at hbuild
  split at hbuild
  · cases hbuild
  · next harvest hgather =>
    simp only [Except.ok.injEq, Prod.mk.injEq] at hbuild
    obtain ⟨_, rfl, rfl⟩ := hbuild
    exact ⟨harvest, hgather, rfl, rfl⟩

lemma sharedOut_of_build : SharedOut (paths.map (Path.canonical base)).eraseDups report.indexed
    (report.failures.map Failure.path) := by
  obtain ⟨harvest, hgather, rfl, _⟩ := exists_gathered hbuild
  obtain ⟨hloaded, hfailed, _⟩ := gather_eq_ok disk maxBytes _ harvest hgather
  have hshared := sharedOut_filter _ (canRead disk maxBytes)
    (nodup_eraseDups (paths.map (Path.canonical base)))
  rw [← hloaded, ← hfailed] at hshared
  exact hshared

lemma builds_of_build_ok : Builds base (.build disk maxBytes paths timestamp durationMs) := by
  by_contra hnone
  have hplan : Plan.ofPaths? (run base steps).base disk maxBytes paths = none := by
    rw [base_run]
    exact plan?_of_not_builds hnone
  rw [build_of_no_plan (run base steps) disk maxBytes paths timestamp durationMs hplan] at hbuild
  cases hbuild

lemma after_eq_apply :
    after = (Step.build disk maxBytes paths timestamp durationMs).apply (run base steps) := by
  simp only [Step.apply, hbuild]

/-- A loaded file is filed as the story that its bytes spell. -/
lemma entry?_of_mem_indexed (p : Path) (hp : p ∈ report.indexed) :
    ∃ content text, disk.readBytes p = .ok content ∧ Spells maxBytes content text ∧
      after.entry? p = some (StoryFile.read p text) := by
  obtain ⟨harvest, hgather, rfl, _⟩ := exists_gathered hbuild
  obtain ⟨hloaded, _, _⟩ := gather_eq_ok disk maxBytes _ harvest hgather
  have hmem : p ∈ harvest.loaded.map StoryFile.path := hp
  rw [hloaded, List.mem_filter, List.mem_eraseDups] at hmem
  obtain ⟨hasked, hcan⟩ := hmem
  obtain ⟨text, hread⟩ := (canRead_iff disk maxBytes p).mp hcan
  obtain ⟨content, hbytes, hdecoded⟩ := readStory_ok hread
  refine ⟨content, text, hbytes, (decodeStory_eq_ok_iff _ _ _).mp hdecoded, ?_⟩
  rw [after_eq_apply hbuild]
  apply entry?_apply_of_loads
  rw [base_run]
  exact (loads_build_iff _ _ _ _ _ _ _ _ (builds_of_build_ok hbuild)).mpr ⟨hasked, hread⟩

/-- A file that failed is filed as before, unless the last build had loaded it. -/
lemma entry?_of_mem_failures (failure : Failure) (hfailure : failure ∈ report.failures) :
    (∃ why, disk.readStory maxBytes failure.path = .ok (.error why) ∧
      failure.reason = why.reason) ∧
    (LastBuildLoaded base steps failure.path → after.entry? failure.path = none) ∧
    (¬LastBuildLoaded base steps failure.path →
      after.entry? failure.path = Index.entry? (run base steps) failure.path) := by
  obtain ⟨harvest, hgather, rfl, _⟩ := exists_gathered hbuild
  obtain ⟨_, _, hreasons⟩ := gather_eq_ok disk maxBytes _ harvest hgather
  obtain ⟨why, hread, hreason⟩ := hreasons failure hfailure
  have hbuilds := builds_of_build_ok hbuild
  have hloads : ∀ text,
      ¬Loads base (.build disk maxBytes paths timestamp durationMs) failure.path text := by
    intro text hloads
    have hok := ((loads_build_iff _ _ _ _ _ _ _ _ hbuilds).mp hloads).2
    rw [hread] at hok
    simp at hok
  have hentry : after.entry? failure.path = if failure.path ∈ (run base steps).built then none
      else Index.entry? (run base steps) failure.path := by
    rw [after_eq_apply hbuild]
    apply entry?_apply_of_builds
    · rwa [base_run]
    · rwa [base_run]
  refine ⟨⟨why, hread, hreason⟩, ?_, ?_⟩
  · intro hlast
    exact hentry.trans (if_pos ((mem_built_run base steps _).mpr hlast))
  · intro hlast
    exact hentry.trans (if_neg fun hmem => hlast ((mem_built_run base steps _).mp hmem))

end Reported

/-- A build accounts for each of its files once. Those it has loaded are filed with the text that
their bytes spell; those that failed are filed as they were, but not at all if the last build had
loaded them. It reports an event for each failure, in order, and then one with both numbers. -/
theorem build_accounts_for_each_file (base : Path) (steps : List Step) (disk : Disk)
    (maxBytes : Int) (paths : List Path) (timestamp : String) (durationMs : Nat)
    (hbase : hasNul base = false) (hpaths : ∀ p ∈ paths, hasNul p = false) :
    ∃ after report events,
      (run base steps).build disk maxBytes paths timestamp durationMs =
        .ok (after, report, events) ∧
      SharedOut (paths.map (Path.canonical base)).eraseDups report.indexed
        (report.failures.map Failure.path) ∧
      (∀ p ∈ report.indexed, ∃ content text, disk.readBytes p = .ok content ∧
        Spells maxBytes content text ∧ after.entry? p = some (StoryFile.read p text)) ∧
      (∀ failure ∈ report.failures,
        (∃ why, disk.readStory maxBytes failure.path = .ok (.error why) ∧
          failure.reason = why.reason) ∧
        (LastBuildLoaded base steps failure.path → after.entry? failure.path = none) ∧
        (¬LastBuildLoaded base steps failure.path →
          after.entry? failure.path = Index.entry? (run base steps) failure.path)) ∧
      events = report.failures.map (fun failure => .readFailed failure.path failure.reason) ++
        [.build report.indexed.length report.failures.length durationMs] := by
  have hbuilds : Builds base (.build disk maxBytes paths timestamp durationMs) := by
    rw [builds_build_iff]
    exact fun p hp => hasNul_canonical hbase (hpaths p hp)
  obtain ⟨plan, hplan⟩ := hbuilds
  obtain ⟨⟨after, report, events⟩, _, hbuild, _⟩ := build_of_plan (run base steps) disk maxBytes
    paths timestamp durationMs plan (by rw [base_run]; exact hplan)
  obtain ⟨harvest, _, hreport, hevents⟩ := exists_gathered hbuild
  refine ⟨after, report, events, hbuild, sharedOut_of_build hbuild, entry?_of_mem_indexed hbuild,
    entry?_of_mem_failures hbuild, ?_⟩
  rw [hevents, hreport]
  simp [Harvest.failureEvents, Harvest.buildEvent, Harvest.report]

/-- Of two files that are named twice each, one is on disk. The text of an editor stays for the
other. -/
theorem build_accounts_for_each_file_named_twice :
    let base : Path := ⟨.root, ["proj"]⟩
    let a : Path := ⟨.root, ["proj", "a.ink"]⟩
    let b : Path := ⟨.root, ["proj", "b.ink"]⟩
    let disk : Disk := ⟨.dir [("proj", .dir [("a.ink", .file "=== a".toUTF8)])], base, 900⟩
    let asked : List Path := [b, a, ⟨.relative, ["c", "..", "a.ink"]⟩, ⟨.relative, ["b.ink"]⟩]
    (hasNul base = false ∧ ∀ p ∈ asked, hasNul p = false) ∧
    ∃ after report events,
      (run base [.update b "draft"]).build disk 100 asked "now" 7 = .ok (after, report, events) ∧
      SharedOut [b, a] [a] [b] ∧
      (∃ text, after.entry? a = some (StoryFile.read a text)) ∧
      after.entry? b = some (StoryFile.read b "draft") ∧
      events = [.readFailed b "No such file or directory", .build 1 1 7] := by
  intro base a b disk asked
  have hbase : hasNul base = false := by decide
  have hasked : ∀ p ∈ asked, hasNul p = false := by decide
  obtain ⟨after, report, events, hbuild, hshared, hloaded, hfailed, hevents⟩ :=
    build_accounts_for_each_file base [.update b "draft"] disk 100 asked "now" 7 hbase hasked
  have hreport : ((run base [.update b "draft"]).build disk 100 asked "now" 7).map
      (fun result => (result.2.1.indexed, result.2.1.failures)) =
      .ok ([a], [⟨b, "No such file or directory"⟩]) := by
    decide +kernel
  rw [hbuild] at hreport
  obtain ⟨hindexed, hfailures⟩ := Prod.mk.inj (Except.ok.inj hreport)
  rw [hindexed] at hshared hloaded
  rw [hfailures] at hshared hfailed
  refine ⟨⟨hbase, hasked⟩, after, report, events, hbuild, hshared, ?_, ?_, ?_⟩
  · obtain ⟨_, text, _, _, hentry⟩ := hloaded a (by simp)
    exact ⟨text, hentry⟩
  · obtain ⟨_, _, hstays⟩ := hfailed ⟨b, "No such file or directory"⟩ (by simp)
    refine (hstays ?_).trans rfl
    rw [← mem_built_run]
    exact List.not_mem_nil
  · rw [hevents, hindexed, hfailures]
    rfl

end StoryAtlas.Proofs
