import StoryAtlas.Proofs.LineGrammar
import StoryAtlas.Story.Cursor

/-!
# The target under the cursor

The divert target under a cursor is put together from the characters in front of the cursor and
those behind it. Both halves belong to the one run of target characters around the cursor, so that
the answer depends on the run alone: on the arrow in front of it and on its first name. Every cursor
on the run, both its ends included, stands on the same target.
-/

namespace StoryAtlas.Proofs
open StoryAtlas.Story

/-- The characters from `i` up to `j` are target characters, and none is next to them on either
side. The run may be empty. -/
structure TargetRun (cs : List Char) (i j : Nat) : Prop where
  start_le : i ≤ j
  stop_le : j ≤ cs.length
  inside : ∀ c ∈ (cs.take j).drop i, isTargetChar c = true
  before : ∀ c ∈ (cs.take i).getLast?, isTargetChar c = false
  behind : ∀ c ∈ (cs.drop j).head?, isTargetChar c = false

/-- The text ends with a divert arrow and blanks. -/
def EndsWithDivert (cs : List Char) : Prop :=
  ∃ front blanks, cs = front ++ ['-', '>'] ++ blanks ∧ ∀ c ∈ blanks, Text.isBlank c = true

/-- The name is the part of a target in front of its first dot, and it is not empty. -/
def HeadsTarget (name target : List Char) : Prop :=
  name ≠ [] ∧ '.' ∉ name ∧ (target = name ∨ ∃ rest, target = name ++ '.' :: rest)

lemma endsWithDivert_iff (cs : List Char) :
    EndsWithDivert cs ↔ ∃ rest, Text.skipBlanks cs.reverse = '>' :: '-' :: rest := by
  constructor
  · rintro ⟨front, blanks, rfl, hblanks⟩
    refine ⟨front.reverse, ?_⟩
    have hreverse : (front ++ ['-', '>'] ++ blanks).reverse =
        blanks.reverse ++ '>' :: '-' :: front.reverse := by
      simp
    rw [hreverse, Text.skipBlanks, List.dropWhile_append_of_pos (by simpa using hblanks),
      List.dropWhile_cons_of_neg (by decide)]
  · rintro ⟨rest, hrest⟩
    refine ⟨rest.reverse, (cs.reverse.takeWhile Text.isBlank).reverse, ?_, ?_⟩
    · have hparts := List.takeWhile_append_dropWhile (p := Text.isBlank) (l := cs.reverse)
      rw [Text.skipBlanks] at hrest
      rw [hrest] at hparts
      have hcs := congrArg List.reverse hparts
      simpa using hcs.symm
    · intro c hc
      exact List.mem_takeWhile_imp (List.mem_reverse.mp hc)

lemma targetBefore?_eq_some_iff (backwards found : List Char) :
    targetBefore? backwards = some found ↔
      EndsWithDivert (backwards.dropWhile isTargetChar).reverse ∧
        found = backwards.takeWhile isTargetChar := by
  rw [endsWithDivert_iff, List.reverse_reverse]
  unfold targetBefore?
  split
  · rename_i rest heq
    simp [heq, eq_comm]
  · rename_i hother
    simp only [reduceCtorEq, false_iff, not_and]
    rintro ⟨rest, heq⟩
    exact absurd heq (hother rest)

lemma headsTarget_iff (name target : List Char) :
    HeadsTarget name target ↔ name ≠ [] ∧ name = target.takeWhile (· != '.') := by
  constructor
  · rintro ⟨hne, hdot, htarget⟩
    have hname : ∀ c ∈ name, (c != '.') = true := by
      intro c hc
      simpa using ne_of_mem_of_not_mem hc hdot
    refine ⟨hne, ?_⟩
    rcases htarget with rfl | ⟨rest, rfl⟩
    · exact (List.takeWhile_eq_self_iff.mpr hname).symm
    · rw [List.takeWhile_append_of_pos hname, List.takeWhile_cons_of_neg (by decide),
        List.append_nil]
  · rintro ⟨hne, rfl⟩
    refine ⟨hne, ?_, ?_⟩
    · intro hdot
      exact absurd (List.mem_takeWhile_imp hdot) (by decide)
    · have hparts := List.takeWhile_append_dropWhile (p := (· != '.')) (l := target)
      cases hrest : target.dropWhile (· != '.') with
      | nil => exact Or.inl (by simpa [hrest] using hparts.symm)
      | cons c rest =>
        have hhead : c ∈ (target.dropWhile (· != '.')).head? := by
          rw [hrest]
          rfl
        obtain rfl : c = '.' := by simpa using not_of_head?_dropWhile hhead
        exact Or.inr ⟨rest, by rw [← hrest, hparts]⟩

lemma headName?_eq_some_iff (target : List Char) (name : String) :
    headName? target = some name ↔ HeadsTarget name.toList target := by
  rw [headsTarget_iff]
  dsimp only [headName?]
  split_ifs with hempty
  · rw [List.isEmpty_iff] at hempty
    simp [hempty]
  · rw [List.isEmpty_iff] at hempty
    constructor
    · intro h
      obtain rfl := Option.some.inj h
      rw [String.toList_ofList]
      exact ⟨hempty, rfl⟩
    · rintro ⟨_, h⟩
      rw [← h, String.ofList_toList]

section Run

variable {cs : List Char} {i j n : Nat}

/-- The run is cut by a cursor in it. -/
lemma take_drop_append (hi : i ≤ n) (hj : n ≤ j) :
    (cs.take n).drop i ++ (cs.take j).drop n = (cs.take j).drop i := by
  have hlength : j - i = (n - i) + (j - n) := by omega
  have hstart : i + (n - i) = n := by omega
  rw [List.drop_take, List.drop_take, List.drop_take, hlength, List.take_add, List.drop_drop,
    hstart]

/-- In front of a cursor in the run stands its first part, and then what stands before the run. -/
lemma span_before (h : TargetRun cs i j) (hi : i ≤ n) (hj : n ≤ j) :
    (cs.take n).reverse.takeWhile isTargetChar = ((cs.take n).drop i).reverse ∧
      (cs.take n).reverse.dropWhile isTargetChar = (cs.take i).reverse := by
  have hsplit : (cs.take n).reverse = ((cs.take n).drop i).reverse ++ (cs.take i).reverse := by
    have htake : cs.take i = (cs.take n).take i := by rw [List.take_take, Nat.min_eq_left hi]
    rw [htake, ← List.reverse_append, List.take_append_drop]
  have hinside : ∀ c ∈ ((cs.take n).drop i).reverse, isTargetChar c = true := by
    intro c hc
    apply h.inside
    rw [← take_drop_append hi hj]
    exact List.mem_append_left _ (List.mem_reverse.mp hc)
  have hhead : ∀ c ∈ (cs.take i).reverse.head?, isTargetChar c = false := by
    rw [List.head?_reverse]
    exact h.before
  obtain ⟨htake, hdrop⟩ := takeWhile_of_head? hhead
  rw [hsplit, List.takeWhile_append_of_pos hinside, List.dropWhile_append_of_pos hinside, htake,
    hdrop, List.append_nil]
  exact ⟨rfl, rfl⟩

lemma takeWhile_behind (h : TargetRun cs i j) (hi : i ≤ n) (hj : n ≤ j) :
    (cs.drop n).takeWhile isTargetChar = (cs.take j).drop n := by
  have hsplit : cs.drop n = (cs.take j).drop n ++ cs.drop j := by
    have hstop : n + (j - n) = j := by omega
    rw [List.drop_take, ← hstop, ← List.drop_drop, hstop, List.take_append_drop]
  have hinside : ∀ c ∈ (cs.take j).drop n, isTargetChar c = true := by
    intro c hc
    apply h.inside
    rw [← take_drop_append hi hj]
    exact List.mem_append_right _ hc
  rw [hsplit, List.takeWhile_append_of_pos hinside, (takeWhile_of_head? h.behind).1,
    List.append_nil]

/-- The run around a cursor is found by going from the cursor to both sides. -/
lemma eq_of_targetRun (h : TargetRun cs i j) (hi : i ≤ n) (hj : n ≤ j) :
    i = n - ((cs.take n).reverse.takeWhile isTargetChar).length ∧
      j = n + ((cs.drop n).takeWhile isTargetChar).length := by
  have hstop := h.stop_le
  rw [(span_before h hi hj).1, takeWhile_behind h hi hj]
  simp only [List.length_reverse, List.length_drop, List.length_take]
  omega

lemma targetRun_append {front run rest : List Char} (hrun : ∀ c ∈ run, isTargetChar c = true)
    (hfront : ∀ c ∈ front.getLast?, isTargetChar c = false)
    (hrest : ∀ c ∈ rest.head?, isTargetChar c = false) :
    TargetRun (front ++ run ++ rest) front.length (front ++ run).length := by
  refine ⟨by simp, by simp, ?_, ?_, ?_⟩
  · rw [List.take_left, List.drop_left]
    exact hrun
  · rw [List.append_assoc, List.take_left]
    exact hfront
  · rw [List.drop_left]
    exact hrest

lemma exists_targetRun (hn : n ≤ cs.length) : ∃ i j, TargetRun cs i j ∧ i ≤ n ∧ n ≤ j := by
  let front := ((cs.take n).reverse.dropWhile isTargetChar).reverse
  let first := ((cs.take n).reverse.takeWhile isTargetChar).reverse
  let second := (cs.drop n).takeWhile isTargetChar
  let rest := (cs.drop n).dropWhile isTargetChar
  have hbefore : front ++ first = cs.take n := by
    rw [← List.reverse_append, List.takeWhile_append_dropWhile, List.reverse_reverse]
  have hcs : front ++ (first ++ second) ++ rest = cs := by
    rw [← List.append_assoc, List.append_assoc, hbefore, List.takeWhile_append_dropWhile,
      List.take_append_drop]
  have hrun : TargetRun cs front.length (front ++ (first ++ second)).length := by
    rw [← hcs]
    apply targetRun_append
    · intro c hc
      rcases List.mem_append.mp hc with hfirst | hsecond
      · exact List.mem_takeWhile_imp (List.mem_reverse.mp hfirst)
      · exact List.mem_takeWhile_imp hsecond
    · intro c hc
      rw [List.getLast?_reverse] at hc
      exact not_of_head?_dropWhile hc
    · intro c hc
      exact not_of_head?_dropWhile hc
  have hlength := congrArg List.length hbefore
  rw [List.length_append, List.length_take, Nat.min_eq_left hn] at hlength
  refine ⟨_, _, hrun, ?_, ?_⟩
  · omega
  · rw [List.length_append, List.length_append]
    omega

lemma lineEnds_of_notMem (h : '\n' ∉ cs) : lineEnds cs = [cs] := by
  apply if_neg
  intro hlast
  exact h (List.mem_of_getLast? hlast)

lemma divertNameAt_eq_some_iff {line : String} (hline : '\n' ∉ line.toList)
    (h : TargetRun line.toList i j) {column : Int} (hi : (i : Int) ≤ column) (hj : column ≤ j)
    (name : String) :
    divertNameAt line column = some name ↔
      EndsWithDivert (line.toList.take i) ∧
        HeadsTarget name.toList ((line.toList.take j).drop i) := by
  obtain ⟨n, rfl⟩ := Int.eq_ofNat_of_zero_le (show 0 ≤ column by omega)
  have hin : i ≤ n := by omega
  have hnj : n ≤ j := by omega
  have hstop := h.stop_le
  have hrange : ¬((n : Int) < 0 ∨ (line.length : Int) < n) := by
    rw [String.length_toList] at hstop
    omega
  have hends : lineEnds (line.toList.take n) = [line.toList.take n] :=
    lineEnds_of_notMem fun hmem => hline (List.mem_of_mem_take hmem)
  obtain ⟨htake, hdrop⟩ := span_before h hin hnj
  have hbehind := takeWhile_behind h hin hnj
  dsimp only [divertNameAt]
  rw [if_neg hrange, Int.toNat_natCast, hends, List.findSome?_singleton, hbehind]
  have hfound : ∀ found, targetBefore? (line.toList.take n).reverse = some found ↔
      EndsWithDivert (line.toList.take i) ∧ found = ((line.toList.take n).drop i).reverse := by
    intro found
    rw [targetBefore?_eq_some_iff, htake, hdrop, List.reverse_reverse]
  cases hname : targetBefore? (line.toList.take n).reverse with
  | none =>
    have hno : ¬EndsWithDivert (line.toList.take i) := by
      intro hdivert
      have hsome := (hfound _).mpr ⟨hdivert, rfl⟩
      rw [hname] at hsome
      cases hsome
    simp [hno]
  | some found =>
    obtain ⟨hdivert, rfl⟩ := (hfound found).mp hname
    dsimp only
    rw [List.reverse_reverse, take_drop_append hin hnj, headName?_eq_some_iff]
    simp [hdivert]

end Run

/-- Around every cursor in a line stands just one run of target characters. The divert target under
the cursor is the name in front of the first dot of the run, if there is one and a divert arrow and
blanks stand in front of the run; so every cursor on the run, both its ends included, stands on the
same target. A cursor outside the line stands on none. -/
theorem divert_name_read_from_run (line : String) (hline : '\n' ∉ line.toList) :
    (∀ column : Int, ¬(0 ≤ column ∧ column ≤ line.length) → divertNameAt line column = none) ∧
    (∀ n ≤ line.length, ∃! run : Nat × Nat,
      TargetRun line.toList run.1 run.2 ∧ run.1 ≤ n ∧ n ≤ run.2) ∧
    ∀ i j, TargetRun line.toList i j → ∀ column : Int, i ≤ column → column ≤ j →
      (∀ name, divertNameAt line column = some name ↔
        EndsWithDivert (line.toList.take i) ∧
          HeadsTarget name.toList ((line.toList.take j).drop i)) ∧
      divertNameAt line column = divertNameAt line i := by
  refine ⟨?_, ?_, ?_⟩
  · intro column hcolumn
    exact if_pos (by omega)
  · intro n hn
    have hlength : n ≤ line.toList.length := by rwa [String.length_toList]
    obtain ⟨i, j, hrun, hi, hj⟩ := exists_targetRun hlength
    refine ⟨(i, j), ⟨hrun, hi, hj⟩, ?_⟩
    rintro ⟨i', j'⟩ ⟨hrun', hi', hj'⟩
    obtain ⟨rfl, rfl⟩ := eq_of_targetRun hrun hi hj
    obtain ⟨rfl, rfl⟩ := eq_of_targetRun hrun' hi' hj'
    rfl
  · intro i j hrun column hi hj
    have hstart : (i : Int) ≤ j := Int.ofNat_le.mpr hrun.start_le
    have hname := divertNameAt_eq_some_iff hline hrun hi hj
    refine ⟨hname, ?_⟩
    apply Option.ext
    intro name
    rw [hname, divertNameAt_eq_some_iff hline hrun (Int.le_refl _) hstart]

/-- The cursor stands behind the last character of a dotted target, between two other arrows. -/
theorem divert_name_read_from_run_dotted :
    let line := "-> in -> \twood.path <- out"
    '\n' ∉ line.toList ∧ TargetRun line.toList 10 19 ∧
    divertNameAt line 19 = some "wood" ∧ divertNameAt line 19 = divertNameAt line 10 ∧
    divertNameAt line 28 = none := by
  intro line
  have hline : '\n' ∉ line.toList := by decide
  have hparts : line.toList =
      ("-> in ".toList ++ ['-', '>'] ++ [' ', '\t']) ++ ("wood".toList ++ '.' :: "path".toList) ++
        " <- out".toList := by
    simp [line]
  have hrun : TargetRun line.toList 10 19 := by
    rw [hparts]
    apply targetRun_append
    · simp [isTargetChar, isNameChar]
    · simp [isTargetChar, isNameChar]
    · simp [isTargetChar, isNameChar]
  obtain ⟨hout, _, hin⟩ := divert_name_read_from_run line hline
  obtain ⟨hname, hsame⟩ := hin 10 19 hrun 19 (by decide) (by decide)
  refine ⟨hline, hrun, (hname "wood").mpr ⟨?_, ?_⟩, hsame, hout 28 (by decide)⟩
  · exact ⟨"-> in ".toList, [' ', '\t'], by simp [line], by simp [Text.isBlank]⟩
  · exact ⟨by simp, by simp, Or.inr ⟨"path".toList, by simp [line]⟩⟩

end StoryAtlas.Proofs
