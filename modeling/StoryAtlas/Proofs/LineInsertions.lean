import StoryAtlas.Proofs.JoinedTexts
import StoryAtlas.Proofs.LineEndings
import StoryAtlas.Proofs.StructuralLines
import StoryAtlas.Story.Cursor

/-!
# Insertions within a line

A text without a line feed that is inserted into another changes one line and leaves the others and
their number alone. So the outline stays the same exactly if this line declares the same header or
label as before. An insertion without structural characters cannot change that in a line that has
none of them, nor behind the beginning of ordinary text, a choice or a gather; it does change it in
the midst of a header, and it can make or unmake an include.
-/

namespace StoryAtlas.Proofs
open StoryAtlas.Story

/-- The text with another one put in front of its character number `i`, or at its end. -/
def insertAt (text : String) (i : Nat) (inserted : String) : String :=
  String.ofList (text.toList.take i ++ inserted.toList ++ text.toList.drop i)

/-- What stands before place `i` in its line. -/
def lineBefore (text : String) (i : Nat) : List Char :=
  (text.toList.take i).rtakeWhile (· != '\n')

/-- What stands behind place `i` in its line. -/
def lineBehind (text : String) (i : Nat) : List Char :=
  (text.toList.drop i).takeWhile (· != '\n')

/-- Both lines declare the same knot, stitch and label, or none. -/
@[mk_iff] structure SameHeadings (old new : List Char) : Prop where
  knot : knotHeader? new = knotHeader? old
  stitch : stitchHeader? new = stitchHeader? old
  label : label? new = label? old

/-! ### The lines of the edited text -/

/-- The lines above the end of a text do not depend on what follows it. -/
lemma exists_split_append (sep : Char) (cs : List Char) :
    ∃ above, ∀ rest, Text.split sep (cs ++ rest) =
      above ++ Text.split sep (cs.rtakeWhile (· != sep) ++ rest) := by
  have hparts := List.rdropWhile_append_rtakeWhile (p := (· != sep)) (l := cs)
  rcases List.eq_nil_or_concat (cs.rdropWhile (· != sep)) with hnil | ⟨front, last, hconcat⟩
  · rw [hnil, List.nil_append] at hparts
    refine ⟨[], ?_⟩
    intro rest
    rw [hparts, List.nil_append]
  · have hlast := List.rdropWhile_last_not (· != sep) cs (by simp [hconcat])
    obtain rfl : last = sep := by simpa [hconcat] using hlast
    refine ⟨Text.split last front, ?_⟩
    intro rest
    rw [← Text.split_append]
    nth_rewrite 1 [← hparts]
    simp [hconcat]

/-- The lines below the beginning of a text do not depend on what stands in front of it. -/
lemma exists_append_split (sep : Char) (cs : List Char) :
    ∃ below, ∀ front, sep ∉ front →
      Text.split sep (front ++ cs) = (front ++ cs.takeWhile (· != sep)) :: below := by
  have hparts := List.takeWhile_append_dropWhile (p := (· != sep)) (l := cs)
  have hfree : sep ∉ cs.takeWhile (· != sep) := by
    intro hmem
    simpa using List.mem_takeWhile_imp hmem
  have hline : ∀ front, sep ∉ front →
      Text.split sep (front ++ cs.takeWhile (· != sep)) = [front ++ cs.takeWhile (· != sep)] := by
    intro front hfront
    apply Text.split_of_notMem
    rw [List.mem_append, not_or]
    exact ⟨hfront, hfree⟩
  cases hrest : cs.dropWhile (· != sep) with
  | nil =>
    rw [hrest, List.append_nil] at hparts
    refine ⟨[], ?_⟩
    intro front hfront
    rw [← hline front hfront, hparts]
  | cons c more =>
    have hhead := List.head?_dropWhile_not (· != sep) cs
    obtain rfl : c = sep := by simpa [hrest] using hhead
    refine ⟨Text.split c more, ?_⟩
    intro front hfront
    nth_rewrite 1 [← hparts]
    rw [hrest, ← List.append_assoc, Text.split_append, hline front hfront]
    rfl

/-- An insertion without a line feed changes one line. -/
lemma exists_charLines_insertAt (text : String) (i : Nat) :
    ∃ above below,
      Text.charLines text.toList =
        above ++ Text.dropReturn (lineBefore text i ++ lineBehind text i) :: below ∧
      ∀ inserted : String, '\n' ∉ inserted.toList →
        Text.charLines (insertAt text i inserted).toList =
          above ++ Text.dropReturn (lineBefore text i ++ inserted.toList ++ lineBehind text i) ::
            below := by
  obtain ⟨above, habove⟩ := exists_split_append '\n' (text.toList.take i)
  obtain ⟨below, hbelow⟩ := exists_append_split '\n' (text.toList.drop i)
  have hedit : ∀ middle : List Char, '\n' ∉ middle →
      Text.charLines (text.toList.take i ++ middle ++ text.toList.drop i) =
        above.map Text.dropReturn ++
          Text.dropReturn (lineBefore text i ++ middle ++ lineBehind text i) ::
            below.map Text.dropReturn := by
    intro middle hmiddle
    have hbefore : '\n' ∉ lineBefore text i ++ middle := by
      rw [List.mem_append, not_or]
      refine ⟨?_, hmiddle⟩
      intro hmem
      simpa using List.mem_rtakeWhile_imp hmem
    rw [Text.charLines, List.append_assoc, habove, ← List.append_assoc, ← lineBefore,
      hbelow _ hbefore, List.map_append, List.map_cons]
    rfl
  refine ⟨above.map Text.dropReturn, below.map Text.dropReturn, ?_, ?_⟩
  · simpa using hedit [] (List.not_mem_nil)
  · intro inserted hinserted
    rw [insertAt, String.toList_ofList]
    exact hedit inserted.toList hinserted

/-! ### One line replaced -/

section Replace

variable {above below : List (List Char)} {old new : List Char}

lemma ofLines_replace (h : SameHeadings old new) :
    Outline.ofLines (above ++ new :: below) = Outline.ofLines (above ++ old :: below) := by
  -- other lines like the new one are replaced with it
  let f : List Char → List Char := fun line => if line = new then old else line
  have hread : ∀ {γ : Type} (read? : List Char → Option γ), read? new = read? old →
      ∀ line, read? (f line) = read? line := by
    intro γ read? hsame line
    dsimp only [f]
    split_ifs with hline
    · rw [hline, hsame]
    · rfl
  have hkeeps : KeepsHeadings f :=
    ⟨hread knotHeader? h.knot, hread stitchHeader? h.stitch, hread label? h.label⟩
  have hold : f old = old := ite_self old
  have hnew : f new = old := if_pos rfl
  rw [← ofLines_map_headings hkeeps, ← ofLines_map_headings hkeeps (above ++ old :: below),
    List.map_append, List.map_append, List.map_cons, List.map_cons, hold, hnew]

variable (above below) in
lemma read_of_declarationsFrom_eq {γ : Type} (read? : List Char → Option γ)
    (h : declarationsFrom read? 0 (above ++ new :: below) =
      declarationsFrom read? 0 (above ++ old :: below)) : read? new = read? old := by
  rw [declarationsFrom_append, declarationsFrom_append, declarationsFrom_cons,
    declarationsFrom_cons] at h
  have hline := congrArg List.head? (List.append_cancel_right (List.append_cancel_left h))
  rw [Option.head?_toList, Option.head?_toList] at hline
  refine Option.map_injective ?_ hline
  intro found other hfound
  exact (Prod.mk.inj hfound).1

lemma sameHeadings_of_knots_eq (h : (Outline.ofLines (above ++ new :: below)).knots =
    (Outline.ofLines (above ++ old :: below)).knots) : SameHeadings old new where
  knot := by
    apply read_of_declarationsFrom_eq above below
    rw [← namedKnots_ofLines, ← namedKnots_ofLines, h]
  stitch := by
    apply read_of_declarationsFrom_eq above below
    rw [← namedStitches_ofLines, ← namedStitches_ofLines, h]
  label := by
    apply read_of_declarationsFrom_eq above below
    rw [← labelLines_ofLines, ← labelLines_ofLines, h]

lemma includesOf_replace (path : Path) (h : include? new = include? old) :
    includesOf path (above ++ new :: below) = includesOf path (above ++ old :: below) := by
  have hnames : includeNames (above ++ new :: below) = includeNames (above ++ old :: below) := by
    simp only [includeNames, List.filterMap_append, List.filterMap_cons, h]
  rw [includesOf, hnames, includesOf]

lemma read_dropReturn {γ : Type} {read : List Char → γ} (h : IgnoresEnd read) (line : List Char) :
    read (Text.dropReturn line) = read line := by
  rw [← read_trimEnd h, trimEnd_dropReturn, read_trimEnd h]

lemma sameHeadings_dropReturn :
    SameHeadings (Text.dropReturn old) (Text.dropReturn new) ↔ SameHeadings old new := by
  simp only [sameHeadings_iff, read_dropReturn ignoresEnd_knotHeader?,
    read_dropReturn ignoresEnd_stitchHeader?, read_dropReturn ignoresEnd_label?]

end Replace

/-! ### Lines without structural characters -/

section Plain

variable {line : List Char} (h : ∀ c ∈ line, isStructural c = false)

include h

lemma ne_of_mem_skipBlanks {c t : Char} (hc : c ∈ Text.skipBlanks line)
    (ht : isStructural t = true) : c ≠ t := by
  rintro rfl
  have hplain := h c ((List.dropWhile_sublist _).subset hc)
  rw [ht] at hplain
  cases hplain

lemma knotHeader?_of_plain : knotHeader? line = none := by
  rw [knotHeader?_eq_bind, Option.bind_eq_none_iff]
  intro rest hafter
  have hskip := (after?_eq_some_iff _ _ _).mp hafter
  exact absurd rfl (ne_of_mem_skipBlanks h (c := '=') (by simp [hskip]) (by decide))

lemma stitchHeader?_of_plain : stitchHeader? line = none := by
  unfold stitchHeader?
  split
  · rename_i rest hskip
    exact absurd rfl (ne_of_mem_skipBlanks h (c := '=') (by simp [hskip]) (by decide))
  · rfl

lemma label?_of_plain : label? line = none := by
  rw [label?_eq]
  cases hskip : Text.skipBlanks line with
  | nil => rfl
  | cons bullet rest =>
    have hmem : bullet ∈ Text.skipBlanks line := by simp [hskip]
    have hdash := ne_of_mem_skipBlanks h (t := '-') hmem (by decide)
    have hstar := ne_of_mem_skipBlanks h (t := '*') hmem (by decide)
    have hplus := ne_of_mem_skipBlanks h (t := '+') hmem (by decide)
    simp [isBullet, hdash, hstar, hplus]

end Plain

lemma sameHeadings_of_plain {old new : List Char} (hold : ∀ c ∈ old, isStructural c = false)
    (hnew : ∀ c ∈ new, isStructural c = false) : SameHeadings old new where
  knot := by rw [knotHeader?_of_plain hold, knotHeader?_of_plain hnew]
  stitch := by rw [stitchHeader?_of_plain hold, stitchHeader?_of_plain hnew]
  label := by rw [label?_of_plain hold, label?_of_plain hnew]

/-! ### Beginnings that no continuation changes -/

/-- Behind a bullet, what follows may still belong to a label. -/
def mayLabel : List Char → Bool
  | [] => true
  | c :: rest => c == '(' && rest.all isNameChar

/-- The beginning of a line from which what it declares may still change: blanks alone, an equals
sign, the first letter of an include, or a bullet with at most an open label behind it. -/
def mayDeclare (front : List Char) : Bool :=
  match Text.skipBlanks front with
  | [] => true
  | c :: rest => c == '=' || c == 'I' || (isBullet c && mayLabel (Text.skipBlanks rest))

lemma skipBlanks_append_of_cons {cs tail : List Char} {c : Char}
    (h : Text.skipBlanks cs = c :: tail) (rest : List Char) :
    Text.skipBlanks (cs ++ rest) = c :: tail ++ rest := by
  rw [Text.skipBlanks] at h
  rw [Text.skipBlanks, List.dropWhile_append, h]
  rfl

/-- A name that has come to its end is not continued. -/
lemma name_append_of_not_all {cs : List Char} (h : cs.all isNameChar = false)
    (rest : List Char) :
    ∃ c more, cs.dropWhile isNameChar = c :: more ∧
      (cs ++ rest).dropWhile isNameChar = c :: more ++ rest ∧
      (cs ++ rest).takeWhile isNameChar = cs.takeWhile isNameChar := by
  induction cs with
  | nil => cases h
  | cons d cs ih =>
    cases hd : isNameChar d with
    | false => exact ⟨d, cs, by simp [hd], by simp [hd], by simp [hd]⟩
    | true =>
      rw [List.all_cons, hd, Bool.true_and] at h
      simpa [hd] using ih h

lemma labelBody?_append {cs : List Char} (h : mayLabel cs = false) (rest : List Char) :
    labelBody? (cs ++ rest) = labelBody? cs := by
  cases cs with
  | nil => cases h
  | cons c cs =>
    by_cases hopen : c = '('
    · subst hopen
      have hname : cs.all isNameChar = false := by
        simpa only [mayLabel, beq_self_eq_true, Bool.true_and] using h
      obtain ⟨d, more, hdrop, hdrop', htake⟩ := name_append_of_not_all hname rest
      simp only [List.cons_append, labelBody?, readName?, hdrop, hdrop', htake]
      split_ifs
      · rfl
      · by_cases hclose : d = ')' <;> simp [hclose]
    · simp [labelBody?, hopen]

lemma declares_append {front : List Char} (h : mayDeclare front = false) (rest : List Char) :
    knotHeader? (front ++ rest) = none ∧ stitchHeader? (front ++ rest) = none ∧
      include? (front ++ rest) = none ∧ label? (front ++ rest) = label? front := by
  unfold mayDeclare at h
  split at h
  · cases h
  · rename_i c tail hskip
    simp only [Bool.or_eq_false_iff, beq_eq_false_iff_ne] at h
    obtain ⟨⟨hequals, hinclude⟩, hlabel⟩ := h
    have hskip' := skipBlanks_append_of_cons hskip rest
    refine ⟨?_, ?_, ?_, ?_⟩
    · simp [knotHeader?_eq_bind, hskip', after?, Ne.symm hequals]
    · simp [stitchHeader?, hskip', hequals]
    · simp [include?_eq_bind, hskip', after?, Ne.symm hinclude]
    · rw [label?_eq, label?_eq, hskip, hskip']
      dsimp only [List.cons_append]
      split_ifs with hbullet
      · rw [hbullet, Bool.true_and] at hlabel
        cases htail : Text.skipBlanks tail with
        | nil =>
          rw [htail] at hlabel
          cases hlabel
        | cons d more =>
          rw [htail] at hlabel
          rw [skipBlanks_append_of_cons htail rest, labelBody?_append hlabel]
      · rfl

/-! ### Insertions -/

section Insert

variable (path : Path) (text : String) (i : Nat) (inserted : String) (h : '\n' ∉ inserted.toList)

include h

lemma lineCount_insertAt :
    (Outline.ofText (insertAt text i inserted)).lineCount = (Outline.ofText text).lineCount := by
  obtain ⟨above, below, htext, hedit⟩ := exists_charLines_insertAt text i
  simp only [Outline.ofText, Outline.ofLines, htext, hedit inserted h, List.length_append,
    List.length_cons]

lemma knots_insertAt_iff :
    (Outline.ofText (insertAt text i inserted)).knots = (Outline.ofText text).knots ↔
      SameHeadings (lineBefore text i ++ lineBehind text i)
        (lineBefore text i ++ inserted.toList ++ lineBehind text i) := by
  obtain ⟨above, below, htext, hedit⟩ := exists_charLines_insertAt text i
  rw [Outline.ofText, Outline.ofText, htext, hedit inserted h, ← sameHeadings_dropReturn]
  constructor
  · intro hknots
    exact sameHeadings_of_knots_eq hknots
  · intro hsame
    rw [ofLines_replace hsame]

lemma includes_insertAt
    (hsame : include? (lineBefore text i ++ inserted.toList ++ lineBehind text i) =
      include? (lineBefore text i ++ lineBehind text i)) :
    (StoryFile.read path (insertAt text i inserted)).includes =
      (StoryFile.read path text).includes := by
  obtain ⟨above, below, htext, hedit⟩ := exists_charLines_insertAt text i
  dsimp only [StoryFile.read]
  rw [htext, hedit inserted h]
  apply includesOf_replace
  rw [read_dropReturn ignoresEnd_include?, read_dropReturn ignoresEnd_include?, hsame]

end Insert

/-- An insertion without structural characters leaves the number of lines alone. It leaves the knots
with their stitches and labels alone exactly if its line declares the same as before, and then only
an include can be made or unmade. The knots cannot change in a line without structural characters,
and nothing can behind the beginning of ordinary text, of a choice or of a gather. -/
theorem unflagged_insertion_read_in_line (path : Path) (text : String) (i : Nat)
    (inserted : String) (h : warrantsReparse [inserted] = false) :
    let file := StoryFile.read path text
    let edited := StoryFile.read path (insertAt text i inserted)
    let old := lineBefore text i ++ lineBehind text i
    let new := lineBefore text i ++ inserted.toList ++ lineBehind text i
    edited.outline.lineCount = file.outline.lineCount ∧
    (edited.outline.knots = file.outline.knots ↔ SameHeadings old new) ∧
    (include? new = include? old → edited.includes = file.includes) ∧
    ((∀ c ∈ old, isStructural c = false) → edited.outline.knots = file.outline.knots) ∧
    (mayDeclare (lineBefore text i) = false →
      edited.outline.knots = file.outline.knots ∧ edited.includes = file.includes) := by
  intro file edited old new
  have hplain : ∀ c ∈ inserted.toList, isStructural c = false := by
    simpa [warrantsReparse] using h
  have hfeed : '\n' ∉ inserted.toList := by
    intro hmem
    exact absurd (hplain _ hmem) (by decide)
  have hcount : edited.outline.lineCount = file.outline.lineCount :=
    lineCount_insertAt text i inserted hfeed
  have hknots : edited.outline.knots = file.outline.knots ↔ SameHeadings old new :=
    knots_insertAt_iff text i inserted hfeed
  have hincludes : include? new = include? old → edited.includes = file.includes :=
    includes_insertAt path text i inserted hfeed
  refine ⟨hcount, hknots, hincludes, ?_, ?_⟩
  · intro hold
    apply hknots.mpr
    apply sameHeadings_of_plain hold
    intro c hc
    simp only [new, old, List.mem_append] at hc hold
    rcases hc with (hbefore | hmiddle) | hbehind
    · exact hold c (Or.inl hbefore)
    · exact hplain c hmiddle
    · exact hold c (Or.inr hbehind)
  · intro hfront
    have hold := declares_append hfront (lineBehind text i)
    have hnew := declares_append hfront (inserted.toList ++ lineBehind text i)
    rw [← List.append_assoc] at hnew
    refine ⟨hknots.mpr ⟨?_, ?_, ?_⟩, hincludes ?_⟩
    · exact hnew.1.trans hold.1.symm
    · exact hnew.2.1.trans hold.2.1.symm
    · exact hnew.2.2.2.trans hold.2.2.2.symm
    · exact hnew.2.2.1.trans hold.2.2.1.symm

/-- Words go into a choice behind its label. -/
theorem unflagged_insertion_read_in_line_choice :
    let path : Path := ⟨.root, ["a.ink"]⟩
    let text := "=== k\n* (go) Walk north"
    let file := StoryFile.read path text
    let edited := StoryFile.read path (insertAt text 17 " slowly")
    warrantsReparse [" slowly"] = false ∧ mayDeclare (lineBefore text 17) = false ∧
    edited.outline.lineCount = file.outline.lineCount ∧
    edited.outline.knots = file.outline.knots ∧ edited.includes = file.includes := by
  intro path text file edited
  have hplain : warrantsReparse [" slowly"] = false := by decide
  have hfront : mayDeclare (lineBefore text 17) = false := by decide +kernel
  obtain ⟨hcount, _, _, _, hsame⟩ := unflagged_insertion_read_in_line path text 17 " slowly" hplain
  exact ⟨hplain, hfront, hcount, hsame hfront⟩

/-- A letter goes into the name of a knot. -/
theorem unflagged_insertion_renames_knot :
    ¬∀ (path : Path) (text : String) (i : Nat) (inserted : String), i ≤ text.length →
      warrantsReparse [inserted] = false →
      let file := StoryFile.read path text
      let edited := StoryFile.read path (insertAt text i inserted)
      edited.outline.lineCount = file.outline.lineCount ∧
      edited.outline.knots = file.outline.knots ∧ edited.includes = file.includes := by
  intro h
  obtain ⟨_, hknots, _⟩ := h ⟨.root, ["a.ink"]⟩ "=== ab" 5 "x" (by decide) (by decide)
  exact absurd hknots (by decide +kernel)

end StoryAtlas.Proofs
