import Mathlib.Data.List.Sort
import Mathlib.Data.List.TakeWhile
import StoryAtlas.Proofs.EligibleFiles

/-!
# Directories that a search leaves out

Leaving out a directory by its name is meant to spare a search files that a pattern excludes
anyway. It does so where the pattern has just the name between its stars. A pattern with further
slashes around the name matches nothing, since no path has two slashes in a row, and yet the
directories with the name are left out.
-/

namespace StoryAtlas.Proofs
open StoryAtlas.Disk StoryAtlas.Glob

/-! ### What a pattern matches -/

lemma suffixMatches_ne_nil (ps : List Piece) (cs : List Char) : suffixMatches ps cs ≠ [] := by
  induction ps with
  | nil => simp [suffixMatches]
  | cons piece ps ih =>
    cases piece with
    | star =>
      rw [suffixMatches]
      cases hanswers : suffixMatches ps cs with
      | nil => exact absurd hanswers ih
      | cons answer later => simp [anyFromHere]
    | one test => simp [suffixMatches]

/-- The answers for a text follow the answer for one more character in front. -/
lemma exists_suffixMatches_cons (ps : List Piece) (c : Char) (cs : List Char) :
    ∃ answer, suffixMatches ps (c :: cs) = answer :: suffixMatches ps cs := by
  induction ps with
  | nil => exact ⟨false, rfl⟩
  | cons piece ps ih =>
    obtain ⟨answer, hanswer⟩ := ih
    cases piece with
    | star =>
      rw [suffixMatches, hanswer]
      exact ⟨_, rfl⟩
    | one test =>
      rw [suffixMatches, hanswer, List.tail_cons]
      cases hlater : suffixMatches ps cs with
      | nil => exact absurd hlater (suffixMatches_ne_nil ps cs)
      | cons next later => exact ⟨test.holds c && next, by simp [suffixMatches, hlater]⟩

/-- A star takes in whatever stands in front of what the rest matches. -/
lemma matchesPieces_star (ps : List Piece) (front back : List Char)
    (h : matchesPieces ps back = true) : matchesPieces (.star :: ps) (front ++ back) = true := by
  induction front with
  | nil =>
    unfold matchesPieces at h ⊢
    rw [List.nil_append, suffixMatches]
    cases hanswers : suffixMatches ps back with
    | nil => exact absurd hanswers (suffixMatches_ne_nil ps back)
    | cons answer later =>
      rw [hanswers] at h
      simp only [List.headD_cons] at h
      simp [anyFromHere, h]
  | cons c front ih =>
    obtain ⟨answer, hanswer⟩ := exists_suffixMatches_cons (.star :: ps) c (front ++ back)
    obtain ⟨first, hfirst⟩ := exists_suffixMatches_cons ps c (front ++ back)
    unfold matchesPieces at ih ⊢
    rw [List.cons_append, suffixMatches, hfirst]
    rw [suffixMatches] at ih
    change (first || (anyFromHere (suffixMatches ps (front ++ back))).headD false) = true
    rw [ih, Bool.or_true]

lemma matchesPieces_exactly (ps : List Piece) (word cs : List Char) :
    matchesPieces (word.map (fun c => .one (.exactly c)) ++ ps) (word ++ cs) =
      matchesPieces ps cs := by
  induction word with
  | nil => rfl
  | cons c word ih =>
    rw [← ih]
    obtain ⟨answer, hanswer⟩ := exists_suffixMatches_cons
      (word.map (fun c => .one (.exactly c)) ++ ps) c (word ++ cs)
    unfold matchesPieces
    rw [List.map_cons, List.cons_append, List.cons_append, suffixMatches, hanswer, List.tail_cons]
    cases hlater : suffixMatches (word.map (fun c => .one (.exactly c)) ++ ps) (word ++ cs) with
    | nil => exact absurd hlater (suffixMatches_ne_nil _ _)
    | cons next later => simp [CharTest.holds]

/-- Characters without a meaning in patterns stand for themselves. -/
lemma piecesFrom_append (word cs : List Char) (fuel : Nat)
    (hword : ∀ c ∈ word, isGlobChar c = false) :
    piecesFrom (word.length + fuel) (word ++ cs) =
      word.map (fun c => .one (.exactly c)) ++ piecesFrom fuel cs := by
  induction word with
  | nil => simp
  | cons c word ih =>
    obtain ⟨hc, hrest⟩ := List.forall_mem_cons.mp hword
    have hne : c ≠ '*' ∧ c ≠ '?' ∧ c ≠ '[' := by
      refine ⟨?_, ?_, ?_⟩ <;>
        · rintro rfl
          revert hc
          decide
    have hlength : (c :: word).length + fuel = (word.length + fuel) + 1 := by
      rw [List.length_cons]
      omega
    rw [hlength, List.cons_append, piecesFrom, if_neg hne.1, if_neg hne.2.1, if_neg hne.2.2,
      ih hrest]
    rfl

/-! ### Patterns with a name between the stars -/

/-- The pattern for what lies below the directories with a name. -/
def dirPattern (name : String) : String :=
  "**/" ++ name ++ "/**"

lemma pieces_dirPattern (name : String) (hname : ∀ c ∈ name.toList, isGlobChar c = false) :
    pieces (dirPattern name).toList = .star :: .star ::
      (('/' :: name.toList ++ ['/']).map fun c => .one (.exactly c)) ++ [.star, .star] := by
  have hword : ∀ c ∈ '/' :: name.toList ++ ['/'], isGlobChar c = false := by
    have hslash : isGlobChar '/' = false := by decide
    simpa [hslash, or_imp, forall_and] using hname
  have htext : (dirPattern name).toList =
      '*' :: '*' :: (('/' :: name.toList ++ ['/']) ++ ['*', '*']) := by
    simp [dirPattern]
  have hpieces := piecesFrom_append _ ['*', '*'] 2 hword
  unfold pieces
  rw [htext]
  change _ :: _ :: piecesFrom (('/' :: name.toList ++ ['/']) ++ ['*', '*']).length _ = _
  rw [List.length_append]
  exact congrArg (fun ps => .star :: .star :: ps) hpieces

lemma globMatches_dirPattern (name text : String) (front back : List Char)
    (hname : ∀ c ∈ name.toList, isGlobChar c = false)
    (htext : text.toList = front ++ (('/' :: name.toList ++ ['/']) ++ back)) :
    globMatches (dirPattern name) text = true := by
  have hend : matchesPieces [.star, .star] back = true := by
    have hinner := matchesPieces_star [] back [] rfl
    rw [List.append_nil] at hinner
    exact matchesPieces_star [.star] [] back hinner
  unfold globMatches
  rw [pieces_dirPattern name hname, htext]
  refine matchesPieces_star _ [] _ (matchesPieces_star _ front _ ?_)
  exact (matchesPieces_exactly _ _ back).trans hend

lemma toList_slash_intercalate (parts : List String) (hparts : parts ≠ []) :
    ("/" ++ String.intercalate "/" parts).toList = parts.flatMap fun part => '/' :: part.toList := by
  induction parts with
  | nil => exact absurd rfl hparts
  | cons part parts ih =>
    cases parts with
    | nil => simp
    | cons next parts =>
      have hrest := ih (by simp)
      rw [String.toList_append] at hrest
      rw [String.intercalate_cons_cons, List.flatMap_cons, ← hrest]
      simp

/-- The pattern for a directory's name excludes every file below such a directory. -/
lemma isExcluded_of_dirPattern {globs : List String} {name : String} {below : List String}
    (hname : ∀ c ∈ name.toList, isGlobChar c = false) (hglob : dirPattern name ∈ globs)
    (hbelow : name ∈ below.dropLast) :
    isExcluded globs (Path.render ⟨.relative, below⟩) = true := by
  obtain ⟨above, next, rest, rfl⟩ := exists_of_mem_dropLast hbelow
  have hne : above ++ name :: next :: rest ≠ [] := by simp
  have htext : ("/" ++ Path.render ⟨.relative, above ++ name :: next :: rest⟩).toList =
      above.flatMap (fun part => '/' :: part.toList) ++ (('/' :: name.toList ++ ['/']) ++
        (next.toList ++ rest.flatMap fun part => '/' :: part.toList)) := by
    have hrender : Path.render ⟨.relative, above ++ name :: next :: rest⟩ =
        String.intercalate "/" (above ++ name :: next :: rest) := by
      simp [Path.render, Anchor.text]
    rw [hrender, toList_slash_intercalate _ hne]
    simp
  refine List.any_eq_true.mpr ⟨dirPattern name, hglob, ?_⟩
  rw [Bool.or_eq_true]
  exact Or.inr (globMatches_dirPattern name _ _ _ hname htext)

/-! ### Names taken from patterns -/

/-- The pruned names for which no pattern stands that excludes what lies below. -/
def paddedNames (globs : List String) : List String :=
  (prunedNames globs).filter fun name => !globs.contains (dirPattern name)

lemma exists_slashes_front (cs : List Char) :
    ∃ m, cs = List.replicate m '/' ++ cs.dropWhile (· == '/') := by
  refine ⟨(cs.takeWhile (· == '/')).length, ?_⟩
  have hslashes : cs.takeWhile (· == '/') =
      List.replicate (cs.takeWhile (· == '/')).length '/' := by
    refine List.eq_replicate_of_mem fun c hc => ?_
    simpa using List.mem_takeWhile_imp hc
  rw [← hslashes, List.takeWhile_append_dropWhile]

lemma exists_slashes (cs : List Char) : ∃ m n,
    cs = List.replicate m '/' ++ (trimSlashes cs ++ List.replicate n '/') := by
  obtain ⟨m, hfront⟩ := exists_slashes_front cs
  obtain ⟨n, hback⟩ := exists_slashes_front (cs.dropWhile (· == '/')).reverse
  refine ⟨m, n, ?_⟩
  have hrest : cs.dropWhile (· == '/') = trimSlashes cs ++ List.replicate n '/' := by
    rw [← List.reverse_reverse (cs.dropWhile (· == '/')), hback, List.reverse_append,
      List.reverse_replicate]
    rfl
  rw [← hrest]
  exact hfront

lemma eq_append_between {front back cs : List Char} (hfront : front <+: cs) (hback : back <:+ cs)
    (hlength : front.length + back.length ≤ cs.length) :
    cs = front ++ ((cs.drop front.length).take (cs.length - (front.length + back.length)) ++
      back) := by
  obtain ⟨rest, rfl⟩ := hfront
  rw [List.length_append] at hlength ⊢
  have hshort : back.length ≤ rest.length := by omega
  obtain ⟨inner, rfl⟩ := List.suffix_of_suffix_length_le hback (List.suffix_append front rest) hshort
  rw [List.drop_left, List.length_append]
  have htake : front.length + (inner.length + back.length) - (front.length + back.length) =
      inner.length := by omega
  rw [htake, List.take_left]

/-- A name is taken from a pattern that has it between the stars, with any slashes around it. -/
lemma prunedName?_eq_some {pattern name : String} (h : prunedName? pattern = some name) :
    (∀ c ∈ name.toList, isGlobChar c = false) ∧ ∃ m n, pattern.toList =
      "**/".toList ++ (List.replicate m '/' ++ (name.toList ++ List.replicate n '/') ++
        "/**".toList) := by
  unfold prunedName? at h
  dsimp only at h
  split_ifs at h with hstars hname
  obtain rfl := Option.some.inj h
  rw [Bool.or_eq_true, not_or, List.any_eq_true, List.isEmpty_iff] at hname
  rw [Bool.and_eq_true, List.isPrefixOf_iff_prefix, List.isSuffixOf_iff_suffix] at hstars
  rw [String.toList_ofList]
  constructor
  · intro c hc
    exact Bool.eq_false_iff.mpr fun hglob => hname.2 ⟨c, hc, hglob⟩
  · obtain ⟨m, n, hinner⟩ :=
      exists_slashes ((pattern.toList.drop 3).take (pattern.toList.length - 6))
    refine ⟨m, n, ?_⟩
    rw [← hinner]
    apply eq_append_between hstars.1 hstars.2
    -- a shorter pattern leaves nothing between the stars
    by_contra hshort
    have hzero : pattern.toList.length - 6 = 0 := by
      simp only [List.length_cons, List.length_nil] at hshort
      omega
    rw [hzero, List.take_zero] at hname
    exact hname.1 rfl

lemma exists_of_mem_prunedNames {globs : List String} {name : String}
    (h : name ∈ prunedNames globs) : (∀ c ∈ name.toList, isGlobChar c = false) ∧
      ∃ pattern ∈ globs, ∃ m n, pattern.toList =
        "**/".toList ++ (List.replicate m '/' ++ (name.toList ++ List.replicate n '/') ++
          "/**".toList) := by
  obtain ⟨pattern, hpattern, hname⟩ := List.mem_filterMap.mp h
  obtain ⟨hplain, hslashes⟩ := prunedName?_eq_some hname
  exact ⟨hplain, pattern, hpattern, hslashes⟩

/-- A pruned name for which its own pattern does not stand comes from one with further slashes. -/
lemma exists_of_mem_paddedNames {globs : List String} {name : String}
    (h : name ∈ paddedNames globs) : ∃ pattern ∈ globs, ∃ m n, 0 < m + n ∧ pattern.toList =
      "**/".toList ++ (List.replicate m '/' ++ (name.toList ++ List.replicate n '/') ++
        "/**".toList) := by
  obtain ⟨hpruned, hmissing⟩ := List.mem_filter.mp h
  obtain ⟨_, pattern, hpattern, m, n, htext⟩ := exists_of_mem_prunedNames hpruned
  refine ⟨pattern, hpattern, m, n, Nat.pos_of_ne_zero fun hzero => ?_, htext⟩
  obtain ⟨rfl, rfl⟩ : m = 0 ∧ n = 0 := by omega
  have hexact : pattern = dirPattern name := by
    apply String.toList_inj.mp
    rw [htext]
    simp [dirPattern]
  rw [← hexact] at hmissing
  simp [hpattern] at hmissing

lemma isExcluded_of_pruned {globs : List String} {name : String} {below : List String}
    (hpruned : name ∈ prunedNames globs) (hpadded : name ∉ paddedNames globs)
    (hbelow : name ∈ below.dropLast) :
    isExcluded globs (Path.render ⟨.relative, below⟩) = true := by
  refine isExcluded_of_dirPattern (exists_of_mem_prunedNames hpruned).1 ?_ hbelow
  by_contra hglob
  exact hpadded (List.mem_filter.mpr ⟨hpruned, by simpa using hglob⟩)

/-! ### Searching without leaving out -/

/-- No directory on the way from `root` to the file has one of the names. -/
def avoids (root : Path) (names : List String) (file : Path) : Bool :=
  (root.below file).parts.dropLast.all fun name => !names.contains name

lemma avoids_descend (root : Path) (names below : List String) :
    avoids root names (root.descend below) = true ↔ ∀ name ∈ below.dropLast, name ∉ names := by
  simp [avoids, Path.below, Path.descend]

lemma isCandidate_iff_unpruned (disk : Disk) (pruned : List String) (root : Path)
    (below : List String) : IsCandidate disk pruned root below ↔
      IsCandidate disk [] root below ∧ ∀ name ∈ below.dropLast, name ∉ pruned := by
  constructor
  · rintro ⟨hfile, hentered, hlisted⟩
    exact ⟨⟨hfile, fun _ _ => List.not_mem_nil, hlisted⟩, hentered⟩
  · rintro ⟨⟨hfile, _, hlisted⟩, hentered⟩
    exact ⟨hfile, hentered, hlisted⟩

/-- Both sides are in the order of the texts, so it is enough that they have the same members. -/
lemma paths_searchBelow_pruned {disk : Disk} {root : Path} (htree : Proper disk.tree)
    (hcanonical : IsCanonical root) (hspelled : Spelled root) (filter : FileFilter) :
    (searchBelow disk filter (prunedNames filter.excludeGlobs) root).paths =
      (searchBelow disk filter [] root).paths.filter
        (avoids root (paddedNames filter.excludeGlobs)) := by
  obtain ⟨_, _, _, hsorted, hfound, _⟩ := exists_candidates htree hcanonical hspelled filter
    (prunedNames filter.excludeGlobs)
  obtain ⟨_, _, _, hsortedAll, hall, _⟩ := exists_candidates htree hcanonical hspelled filter []
  rw [List.pairwise_map] at hsorted hsortedAll
  have : Std.Irrefl fun p q : Path => p.render < q.render := ⟨fun _ => String.lt_irrefl _⟩
  have : Std.Antisymm fun p q : Path => p.render < q.render :=
    ⟨fun _ _ hlt hgt => absurd hgt (String.lt_asymm hlt)⟩
  refine hsorted.eq_of_mem_iff (hsortedAll.filter _) fun p => ?_
  rw [List.mem_filter, hfound, hall]
  constructor
  · rintro ⟨below, hcandidate, heligible, rfl⟩
    obtain ⟨hreached, hentered⟩ := (isCandidate_iff_unpruned _ _ _ _).mp hcandidate
    refine ⟨⟨below, hreached, heligible, rfl⟩, ?_⟩
    rw [canonical_descend htree hcanonical hcandidate, avoids_descend]
    exact fun name hname hpadded => hentered name hname (List.mem_filter.mp hpadded).1
  · rintro ⟨⟨below, hreached, heligible, rfl⟩, havoids⟩
    rw [canonical_descend htree hcanonical hreached, avoids_descend] at havoids
    refine ⟨below, (isCandidate_iff_unpruned _ _ _ _).mpr ⟨hreached, ?_⟩, heligible, rfl⟩
    intro name hname hpruned
    have hexcluded := isExcluded_of_pruned hpruned (havoids name hname) hname
    rw [heligible.admitted] at hexcluded
    cases hexcluded

/-- The search of a project finds what a search that enters every directory finds, except below
directories whose names are taken from patterns with further slashes around them. Below any other
directory that it leaves out, a pattern excludes every file. -/
theorem discover_eq_unpruned (disk : Disk) (filter : FileFilter) (projectRoot root : Path)
    (hcwd : IsRealDir disk disk.cwd) (hroot : Spelled projectRoot) (htree : Proper disk.tree)
    (hresolve : disk.resolve projectRoot = .ok root) :
    (∃ found, discover disk filter projectRoot = .ok found ∧
      found.paths = (searchBelow disk filter [] root).paths.filter
        (avoids root (paddedNames filter.excludeGlobs)) ∧
      (paddedNames filter.excludeGlobs = [] →
        found.paths = (searchBelow disk filter [] root).paths)) ∧
    (∀ name ∈ prunedNames filter.excludeGlobs, name ∉ paddedNames filter.excludeGlobs →
      ∀ below, name ∈ List.dropLast below →
        isExcluded filter.excludeGlobs (Path.render ⟨.relative, below⟩) = true) ∧
    ∀ name ∈ paddedNames filter.excludeGlobs, ∃ pattern ∈ filter.excludeGlobs, ∃ m n, 0 < m + n ∧
      pattern.toList = "**/".toList ++
        (List.replicate m '/' ++ (name.toList ++ List.replicate n '/') ++ "/**".toList) := by
  have hpaths := paths_searchBelow_pruned htree (isCanonical_resolve hcwd hresolve)
    (spelled_resolved hcwd hroot hresolve) filter
  refine ⟨⟨_, (discover_eq_ok_iff _ _ _ _).mpr ⟨root, hresolve, rfl⟩, hpaths, fun hpadded => ?_⟩,
    fun name hpruned hpadded below hbelow => isExcluded_of_pruned hpruned hpadded hbelow,
    fun name hname => exists_of_mem_paddedNames hname⟩
  rw [hpaths, hpadded]
  simp [avoids]

theorem discover_eq_unpruned_circular :
    let filter : FileFilter := ⟨[".ink"], ["**/drafts/**"]⟩
    let root : Path := ⟨.root, ["work", "proj"]⟩
    IsRealDir circularProject circularProject.cwd ∧ Spelled ⟨.root, ["home"]⟩ ∧
      Proper circularProject.tree ∧ circularProject.resolve ⟨.root, ["home"]⟩ = .ok root ∧
      prunedNames filter.excludeGlobs = ["drafts"] ∧ paddedNames filter.excludeGlobs = [] ∧
      (∃ found, discover circularProject filter ⟨.root, ["home"]⟩ = .ok found ∧
        found.paths = (searchBelow circularProject filter [] root).paths) ∧
      isExcluded filter.excludeGlobs (Path.render ⟨.relative, ["drafts", "old.ink"]⟩) = true := by
  intro filter root
  have hpruned : prunedNames filter.excludeGlobs = ["drafts"] := by decide +kernel
  have hpadded : paddedNames filter.excludeGlobs = [] := by decide +kernel
  obtain ⟨⟨found, hfound, _, hsame⟩, hexcluded, _⟩ := discover_eq_unpruned circularProject filter
    ⟨.root, ["home"]⟩ root isRealDir_circularProject spelled_home proper_circularProject resolve_home
  refine ⟨isRealDir_circularProject, spelled_home, proper_circularProject, resolve_home, hpruned,
    hpadded, ⟨found, hfound, hsame hpadded⟩, ?_⟩
  exact hexcluded "drafts" (by simp [hpruned]) (by simp [hpadded]) _ (by simp)

/-- A second slash in front of the name makes the pattern match nothing, but the directory is left
out all the same. -/
theorem discover_drops_unmatched :
    let disk : Disk :=
      ⟨.dir [("proj", .dir [("drafts", .dir [("a.ink", .file ⟨#[]⟩)])])], ⟨.root, []⟩, 900⟩
    let filter : FileFilter := ⟨[".ink"], ["**//drafts/**"]⟩
    let root : Path := ⟨.root, ["proj"]⟩
    disk.resolve root = .ok root ∧ "drafts" ∈ prunedNames filter.excludeGlobs ∧
      isExcluded filter.excludeGlobs (Path.render ⟨.relative, ["drafts", "a.ink"]⟩) = false ∧
      discover disk filter root = .ok ⟨[], 0, 0, 0⟩ ∧
      searchBelow disk filter [] root = ⟨[⟨.root, ["proj", "drafts", "a.ink"]⟩], 1, 0, 0⟩ := by
  intro disk filter root
  refine ⟨?_, ?_, ?_, ?_, ?_⟩ <;> decide +kernel

end StoryAtlas.Proofs
