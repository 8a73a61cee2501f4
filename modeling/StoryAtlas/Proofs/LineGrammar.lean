import Mathlib.Data.List.TakeWhile
import StoryAtlas.Story.Line

/-!
# The grammar of structural lines

A structural line is put together from blanks, marks and words, and a name. Its name is a maximal
run of name characters, which no blank is, so a line can be cut up in one way only: what a
recogniser reads from a line is exactly what the grammar says, and no line is of two kinds.
-/

namespace StoryAtlas.Proofs
open StoryAtlas.Story

/-! ### The grammar -/

/-- Nothing but blanks, and possibly nothing. -/
def Blanks (cs : List Char) : Prop :=
  ∀ c ∈ cs, Text.isBlank c = true

/-- A name that a header or a label can declare: one or more name characters. -/
def Declarable (name : String) : Prop :=
  name ≠ "" ∧ ∀ c ∈ name.toList, isNameChar c = true

/-- The name stands in front of `rest` and does not go on there. -/
structure NameBefore (name : String) (rest : List Char) : Prop where
  declarable : Declarable name
  ended : ∀ c ∈ rest.head?, isNameChar c = false

/-- Three equals signs, the word `function`, and a name that stands apart from it. -/
def FunctionLine (line : List Char) (name : String) : Prop :=
  ∃ indent space gap rest, Blanks indent ∧ Blanks space ∧ Blanks gap ∧ gap ≠ [] ∧
    NameBefore name rest ∧
    line = indent ++ "===".toList ++ space ++ "function".toList ++ gap ++ name.toList ++ rest

/-- Three equals signs and a name. -/
def KnotLine (line : List Char) (name : String) : Prop :=
  ∃ indent space rest, Blanks indent ∧ Blanks space ∧ NameBefore name rest ∧
    line = indent ++ "===".toList ++ space ++ name.toList ++ rest

/-- One equals sign and a name. -/
def StitchLine (line : List Char) (name : String) : Prop :=
  ∃ indent space rest, Blanks indent ∧ Blanks space ∧ NameBefore name rest ∧
    line = indent ++ "=".toList ++ space ++ name.toList ++ rest

/-- A bullet and a name in parentheses. -/
def LabelLine (line : List Char) (name : String) : Prop :=
  ∃ indent bullet space rest, Blanks indent ∧ bullet ∈ ['-', '*', '+'] ∧ Blanks space ∧
    Declarable name ∧
    line = indent ++ [bullet] ++ space ++ "(".toList ++ name.toList ++ ")".toList ++ rest

/-- The word `INCLUDE` and, apart from it, a name with the extension of a story file, where the line
ends or a blank follows. -/
def IncludeLine (line : List Char) (stem : String) : Prop :=
  ∃ indent gap rest, Blanks indent ∧ Blanks gap ∧ gap ≠ [] ∧ Declarable stem ∧
    (∀ c ∈ rest.head?, Text.isBlank c = true) ∧
    line = indent ++ "INCLUDE".toList ++ gap ++ stem.toList ++ ".ink".toList ++ rest

/-! ### Characters -/

lemma isNameChar_iff (c : Char) : isNameChar c = true ↔
    ('A' ≤ c ∧ c ≤ 'Z') ∨ ('a' ≤ c ∧ c ≤ 'z') ∨ ('0' ≤ c ∧ c ≤ '9') ∨ c = '_' := by
  have hclasses : isNameChar c = (decide ('A' ≤ c ∧ c ≤ 'Z') ||
      (decide ('a' ≤ c) && decide (c ≤ 'z')) || (decide ('0' ≤ c) && decide (c ≤ '9')) ||
      c == '_') := rfl
  simp only [hclasses, Bool.or_eq_true, Bool.and_eq_true, decide_eq_true_eq, beq_iff_eq, or_assoc]

lemma ne_of_isBlank {c t : Char} (hc : Text.isBlank c = true) (ht : Text.isBlank t = false) :
    c ≠ t := by
  rintro rfl
  rw [hc] at ht
  cases ht

lemma isNameChar_of_isBlank {c : Char} (hc : Text.isBlank c = true) : isNameChar c = false := by
  by_contra hname
  rw [Bool.not_eq_false, isNameChar_iff] at hname
  simp only [Text.isBlank, Bool.or_eq_true, Bool.and_eq_true, decide_eq_true_eq, beq_iff_eq] at hc
  simp only [Char.le_def, UInt32.le_iff_toNat_le] at hname
  rcases hname with hupper | hlower | hdigit | rfl
  · change 65 ≤ c.toNat ∧ c.toNat ≤ 90 at hupper
    omega
  · change 97 ≤ c.toNat ∧ c.toNat ≤ 122 at hlower
    omega
  · change 48 ≤ c.toNat ∧ c.toNat ≤ 57 at hdigit
    omega
  · exact absurd hc (by decide)

/-! ### Readers in front of a line -/

lemma not_of_head?_dropWhile {p : Char → Bool} {cs : List Char} {c : Char}
    (h : c ∈ (cs.dropWhile p).head?) : p c = false := by
  have hnot := List.head?_dropWhile_not p cs
  rw [Option.mem_def.mp h] at hnot
  simpa using hnot

lemma takeWhile_of_head? {p : Char → Bool} {cs : List Char}
    (h : ∀ c ∈ cs.head?, p c = false) : cs.takeWhile p = [] ∧ cs.dropWhile p = cs := by
  cases cs with
  | nil => exact ⟨rfl, rfl⟩
  | cons c cs =>
    have hc : p c = false := h c rfl
    simp [hc]

/-- What is left behind the blanks in front does not begin with a blank. -/
lemma skipBlanks_eq_iff (cs rest : List Char) :
    Text.skipBlanks cs = rest ↔
      ∃ blanks, Blanks blanks ∧ cs = blanks ++ rest ∧ ∀ c ∈ rest.head?, Text.isBlank c = false := by
  constructor
  · rintro rfl
    refine ⟨cs.takeWhile Text.isBlank, ?_, List.takeWhile_append_dropWhile.symm, ?_⟩
    · exact fun c hc => List.mem_takeWhile_imp hc
    · exact fun c hc => not_of_head?_dropWhile hc
  · rintro ⟨blanks, hblanks, rfl, hrest⟩
    rw [Text.skipBlanks, List.dropWhile_append_of_pos hblanks]
    exact (takeWhile_of_head? hrest).2

lemma afterBlanks?_eq_some_iff (cs rest : List Char) :
    afterBlanks? cs = some rest ↔
      ∃ blanks, Blanks blanks ∧ blanks ≠ [] ∧ cs = blanks ++ rest ∧
        ∀ c ∈ rest.head?, Text.isBlank c = false := by
  constructor
  · intro h
    cases cs with
    | nil => cases h
    | cons c cs =>
      rw [afterBlanks?] at h
      split_ifs at h with hc
      obtain ⟨blanks, hblanks, rfl, hrest⟩ := (skipBlanks_eq_iff cs rest).mp (Option.some.inj h)
      exact ⟨c :: blanks, List.forall_mem_cons.mpr ⟨hc, hblanks⟩, by simp, rfl, hrest⟩
  · rintro ⟨blanks, hblanks, hne, rfl, hrest⟩
    obtain ⟨c, more, rfl⟩ := List.exists_cons_of_ne_nil hne
    obtain ⟨hc, hmore⟩ := List.forall_mem_cons.mp hblanks
    rw [List.cons_append, afterBlanks?, if_pos hc]
    exact congrArg some ((skipBlanks_eq_iff _ rest).mpr ⟨more, hmore, rfl, hrest⟩)

lemma after?_eq_some_iff (front cs rest : List Char) :
    after? front cs = some rest ↔ cs = front ++ rest := by
  induction front generalizing cs with
  | nil => simp [after?]
  | cons t front ih =>
    cases cs with
    | nil => simp [after?]
    | cons c cs =>
      by_cases htc : t = c
      · simp [after?, htc, ih]
      · have hct : ¬c = t := fun h => htc h.symm
        simp [after?, htc, hct]

lemma readName?_eq_some_iff (cs name rest : List Char) :
    readName? cs = some (name, rest) ↔
      NameBefore (String.ofList name) rest ∧ cs = name ++ rest := by
  unfold readName?
  constructor
  · intro h
    split_ifs at h with hempty
    obtain ⟨rfl, rfl⟩ := Prod.mk.inj (Option.some.inj h)
    refine ⟨⟨⟨?_, ?_⟩, fun c hc => not_of_head?_dropWhile hc⟩,
      List.takeWhile_append_dropWhile.symm⟩
    · simpa using hempty
    · intro c hc
      rw [String.toList_ofList] at hc
      exact List.mem_takeWhile_imp hc
  · rintro ⟨⟨⟨hne, hchars⟩, hended⟩, rfl⟩
    rw [String.toList_ofList] at hchars
    obtain ⟨htake, hdrop⟩ := takeWhile_of_head? hended
    rw [List.takeWhile_append_of_pos hchars, List.dropWhile_append_of_pos hchars, htake, hdrop,
      List.append_nil, if_neg (by simpa using hne)]

lemma isNameChar_of_head? {name : String} {rest : List Char} (h : Declarable name) :
    ∀ c ∈ (name.toList ++ rest).head?, isNameChar c = true := by
  obtain ⟨hne, hchars⟩ := h
  obtain ⟨c, cs, hname⟩ := List.exists_cons_of_ne_nil (by simpa using hne : name.toList ≠ [])
  have hc : isNameChar c = true := hchars c (by simp [hname])
  simpa [hname] using hc

/-- A name does not begin with a blank. -/
lemma solid_name {name : String} {rest : List Char} (h : Declarable name) :
    ∀ c ∈ (name.toList ++ rest).head?, Text.isBlank c = false := by
  intro c hc
  by_contra hblank
  have hname := isNameChar_of_head? h c hc
  rw [isNameChar_of_isBlank (by simpa using hblank)] at hname
  cases hname

/-! ### Headers, labels and includes -/

lemma functionName?_eq_bind (body : List Char) :
    functionName? body = (after? ['f', 'u', 'n', 'c', 't', 'i', 'o', 'n'] body).bind fun rest =>
      (afterBlanks? rest).bind fun rest => (readName? rest).bind fun found => some found.1 := by
  unfold functionName?
  cases after? ['f', 'u', 'n', 'c', 't', 'i', 'o', 'n'] body with
  | none => rfl
  | some rest =>
    dsimp only [Option.bind_some]
    cases afterBlanks? rest with
    | none => rfl
    | some rest => exact Option.map_eq_bind

/-- What a knot header declares behind its equals signs. -/
def knotBody? (body : List Char) : Option KnotHeader :=
  match functionName? body with
  | some name => some ⟨String.ofList name, true⟩
  | none => (readName? body).map fun found => ⟨String.ofList found.1, false⟩

lemma knotHeader?_eq_bind (line : List Char) :
    knotHeader? line = (after? ['=', '=', '='] (Text.skipBlanks line)).bind fun rest =>
      knotBody? (Text.skipBlanks rest) := by
  unfold knotHeader?
  cases after? ['=', '=', '='] (Text.skipBlanks line) <;> rfl

lemma functionName?_eq_some_iff (body : List Char) (name : String) :
    functionName? body = some name.toList ↔
      ∃ gap rest, Blanks gap ∧ gap ≠ [] ∧ NameBefore name rest ∧
        body = "function".toList ++ gap ++ name.toList ++ rest := by
  simp only [functionName?_eq_bind, Option.bind_eq_some_iff, after?_eq_some_iff,
    afterBlanks?_eq_some_iff, Option.some.injEq]
  constructor
  · rintro ⟨_, rfl, _, ⟨gap, hgap, hne, rfl, _⟩, ⟨_, rest⟩, hread, rfl⟩
    obtain ⟨hname, rfl⟩ := (readName?_eq_some_iff _ _ _).mp hread
    exact ⟨gap, rest, hgap, hne, by simpa using hname, by simp⟩
  · rintro ⟨gap, rest, hgap, hne, hname, rfl⟩
    refine ⟨gap ++ (name.toList ++ rest), by simp, name.toList ++ rest,
      ⟨gap, hgap, hne, rfl, solid_name hname.declarable⟩, (name.toList, rest), ?_, rfl⟩
    exact (readName?_eq_some_iff _ _ _).mpr ⟨by simpa using hname, rfl⟩

lemma knotBody?_function_iff (body : List Char) (name : String) :
    knotBody? body = some ⟨name, true⟩ ↔ functionName? body = some name.toList := by
  unfold knotBody?
  cases functionName? body with
  | none => simp
  | some found =>
    have heq : String.ofList found = name ↔ found = name.toList := by
      rw [← String.toList_inj, String.toList_ofList]
    simpa using heq

lemma knotBody?_knot_iff (body : List Char) (name : String) :
    knotBody? body = some ⟨name, false⟩ ↔
      functionName? body = none ∧ ∃ rest, NameBefore name rest ∧ body = name.toList ++ rest := by
  unfold knotBody?
  cases functionName? body with
  | some found => simp
  | none =>
    simp only [Option.map_eq_some_iff, KnotHeader.mk.injEq, and_true, true_and]
    constructor
    · rintro ⟨⟨_, rest⟩, hread, rfl⟩
      obtain ⟨hname, rfl⟩ := (readName?_eq_some_iff _ _ _).mp hread
      exact ⟨rest, hname, by simp⟩
    · rintro ⟨rest, hname, rfl⟩
      refine ⟨(name.toList, rest), ?_, by simp⟩
      exact (readName?_eq_some_iff _ _ _).mpr ⟨by simpa using hname, rfl⟩

lemma solid_knotBody {body : List Char} {header : KnotHeader} (h : knotBody? body = some header) :
    ∀ c ∈ body.head?, Text.isBlank c = false := by
  obtain ⟨name, isFunction⟩ := header
  cases isFunction with
  | true =>
    rw [knotBody?_function_iff, functionName?_eq_some_iff] at h
    obtain ⟨gap, rest, _, _, _, rfl⟩ := h
    have hword : Text.isBlank 'f' = false := by decide
    simpa using hword
  | false =>
    obtain ⟨_, rest, hname, rfl⟩ := (knotBody?_knot_iff body name).mp h
    exact solid_name hname.declarable

lemma knotHeader?_eq_some_iff (line : List Char) (header : KnotHeader) :
    knotHeader? line = some header ↔
      ∃ indent space body, Blanks indent ∧ Blanks space ∧ knotBody? body = some header ∧
        line = indent ++ "===".toList ++ space ++ body := by
  simp only [knotHeader?_eq_bind, Option.bind_eq_some_iff, after?_eq_some_iff]
  constructor
  · rintro ⟨rest, hskip, hbody⟩
    obtain ⟨indent, hindent, rfl, _⟩ := (skipBlanks_eq_iff _ _).mp hskip
    generalize hspaced : Text.skipBlanks rest = body at hbody
    obtain ⟨space, hspace, rfl, _⟩ := (skipBlanks_eq_iff rest body).mp hspaced
    exact ⟨indent, space, body, hindent, hspace, hbody, by simp⟩
  · rintro ⟨indent, space, body, hindent, hspace, hbody, rfl⟩
    have hmark : Text.isBlank '=' = false := by decide
    have hspaced : Text.skipBlanks (space ++ body) = body :=
      (skipBlanks_eq_iff _ _).mpr ⟨space, hspace, rfl, solid_knotBody hbody⟩
    refine ⟨space ++ body, (skipBlanks_eq_iff _ _).mpr ⟨indent, hindent, by simp, ?_⟩, ?_⟩
    · simpa using hmark
    · rw [hspaced, hbody]

lemma knotHeader?_function_iff (line : List Char) (name : String) :
    knotHeader? line = some ⟨name, true⟩ ↔ FunctionLine line name := by
  simp only [knotHeader?_eq_some_iff, knotBody?_function_iff, functionName?_eq_some_iff]
  constructor
  · rintro ⟨indent, space, _, hindent, hspace, ⟨gap, rest, hgap, hne, hname, rfl⟩, rfl⟩
    exact ⟨indent, space, gap, rest, hindent, hspace, hgap, hne, hname, by simp⟩
  · rintro ⟨indent, space, gap, rest, hindent, hspace, hgap, hne, hname, rfl⟩
    exact ⟨indent, space, _, hindent, hspace, ⟨gap, rest, hgap, hne, hname, rfl⟩, by simp⟩

/-- A line with three equals signs and a name declares the name, unless it declares a function. -/
lemma knotHeader?_knot_iff (line : List Char) (name : String) :
    knotHeader? line = some ⟨name, false⟩ ↔
      KnotLine line name ∧ ¬∃ other, FunctionLine line other := by
  constructor
  · intro h
    obtain ⟨indent, space, body, hindent, hspace, hbody, rfl⟩ :=
      (knotHeader?_eq_some_iff line _).mp h
    obtain ⟨_, rest, hname, rfl⟩ := (knotBody?_knot_iff body name).mp hbody
    refine ⟨⟨indent, space, rest, hindent, hspace, hname, by simp⟩, ?_⟩
    rintro ⟨other, hother⟩
    rw [← knotHeader?_function_iff, h] at hother
    simp at hother
  · rintro ⟨⟨indent, space, rest, hindent, hspace, hname, hline⟩, hfunction⟩
    rw [List.append_assoc] at hline
    have hbody : functionName? (name.toList ++ rest) = none := by
      cases hother : functionName? (name.toList ++ rest) with
      | none => rfl
      | some other =>
        refine absurd ⟨String.ofList other, ?_⟩ hfunction
        rw [← knotHeader?_function_iff, knotHeader?_eq_some_iff]
        refine ⟨indent, space, _, hindent, hspace, ?_, hline⟩
        rw [knotBody?_function_iff, hother, String.toList_ofList]
    rw [knotHeader?_eq_some_iff]
    exact ⟨indent, space, _, hindent, hspace,
      (knotBody?_knot_iff _ name).mpr ⟨hbody, rest, hname, rfl⟩, hline⟩

/-- What a stitch header declares from its equals sign on. -/
def stitchBody? : List Char → Option String
  | '=' :: rest =>
    if rest.head? = some '=' then none
    else (readName? (Text.skipBlanks rest)).map fun found => String.ofList found.1
  | _ => none

lemma stitchHeader?_eq (line : List Char) :
    stitchHeader? line = stitchBody? (Text.skipBlanks line) :=
  rfl

lemma stitchBody?_eq_some_iff (body : List Char) (name : String) :
    stitchBody? body = some name ↔
      ∃ space rest, Blanks space ∧ NameBefore name rest ∧
        body = "=".toList ++ space ++ name.toList ++ rest := by
  constructor
  · intro h
    unfold stitchBody? at h
    split at h
    · split_ifs at h
      obtain ⟨⟨found, after⟩, hread, rfl⟩ := Option.map_eq_some_iff.mp h
      obtain ⟨hname, hspaced⟩ := (readName?_eq_some_iff _ _ _).mp hread
      obtain ⟨space, hspace, rfl, _⟩ := (skipBlanks_eq_iff _ _).mp hspaced
      exact ⟨space, after, hspace, hname, by simp⟩
    · cases h
  · rintro ⟨space, rest, hspace, hname, rfl⟩
    have hspaced : Text.skipBlanks (space ++ (name.toList ++ rest)) = name.toList ++ rest :=
      (skipBlanks_eq_iff _ _).mpr ⟨space, hspace, rfl, solid_name hname.declarable⟩
    have hread : readName? (name.toList ++ rest) = some (name.toList, rest) :=
      (readName?_eq_some_iff _ _ _).mpr ⟨by simpa using hname, rfl⟩
    have hsingle : (space ++ (name.toList ++ rest)).head? ≠ some '=' := by
      intro hdouble
      cases space with
      | nil => exact absurd (isNameChar_of_head? hname.declarable _ hdouble) (by decide)
      | cons c space =>
        obtain rfl : c = '=' := by simpa using hdouble
        exact absurd (hspace '=' List.mem_cons_self) (by decide)
    have hbody : "=".toList ++ space ++ name.toList ++ rest =
        '=' :: (space ++ (name.toList ++ rest)) := by simp
    rw [hbody, stitchBody?, if_neg hsingle, hspaced, hread, Option.map_some, String.ofList_toList]

lemma stitchHeader?_eq_some_iff (line : List Char) (name : String) :
    stitchHeader? line = some name ↔ StitchLine line name := by
  rw [stitchHeader?_eq, stitchBody?_eq_some_iff]
  constructor
  · rintro ⟨space, rest, hspace, hname, hskip⟩
    obtain ⟨indent, hindent, rfl, _⟩ := (skipBlanks_eq_iff _ _).mp hskip
    exact ⟨indent, space, rest, hindent, hspace, hname, by simp⟩
  · rintro ⟨indent, space, rest, hindent, hspace, hname, rfl⟩
    have hmark : Text.isBlank '=' = false := by decide
    refine ⟨space, rest, hspace, hname, (skipBlanks_eq_iff _ _).mpr ⟨indent, hindent, ?_, ?_⟩⟩
    · simp
    · simpa using hmark

/-- What a label declares behind its bullet. -/
def labelBody? : List Char → Option String
  | '(' :: rest =>
    match readName? rest with
    | some (name, ')' :: _) => some (String.ofList name)
    | _ => none
  | _ => none

lemma label?_eq (line : List Char) :
    label? line = match Text.skipBlanks line with
      | [] => none
      | bullet :: rest => if isBullet bullet then labelBody? (Text.skipBlanks rest) else none :=
  rfl

lemma labelBody?_eq_some_iff (body : List Char) (name : String) :
    labelBody? body = some name ↔
      Declarable name ∧ ∃ rest, body = "(".toList ++ name.toList ++ ")".toList ++ rest := by
  constructor
  · intro h
    unfold labelBody? at h
    split at h
    · split at h
      · next found rest hread =>
        obtain rfl := Option.some.inj h
        obtain ⟨hname, rfl⟩ := (readName?_eq_some_iff _ _ _).mp hread
        exact ⟨hname.declarable, rest, by simp⟩
      · cases h
    · cases h
  · rintro ⟨hname, rest, rfl⟩
    have hclose : isNameChar ')' = false := by decide
    have hread : readName? (name.toList ++ ')' :: rest) = some (name.toList, ')' :: rest) :=
      (readName?_eq_some_iff _ _ _).mpr ⟨⟨by simpa using hname, by simpa using hclose⟩, rfl⟩
    simp [labelBody?, hread]

lemma isBullet_iff (c : Char) : isBullet c = true ↔ c ∈ ['-', '*', '+'] := by
  simp [isBullet, or_assoc]

lemma label?_eq_some_iff (line : List Char) (name : String) :
    label? line = some name ↔ LabelLine line name := by
  rw [label?_eq]
  constructor
  · intro h
    split at h
    · cases h
    · next bullet rest hskip =>
      split_ifs at h with hbullet
      generalize hspaced : Text.skipBlanks rest = body at h
      obtain ⟨hname, after, rfl⟩ := (labelBody?_eq_some_iff body name).mp h
      obtain ⟨indent, hindent, rfl, _⟩ := (skipBlanks_eq_iff _ _).mp hskip
      obtain ⟨space, hspace, rfl, _⟩ := (skipBlanks_eq_iff _ _).mp hspaced
      exact ⟨indent, bullet, space, after, hindent, (isBullet_iff bullet).mp hbullet, hspace, hname,
        by simp⟩
  · rintro ⟨indent, bullet, space, rest, hindent, hbullet, hspace, hname, rfl⟩
    have hmark : Text.isBlank bullet = false := by
      simp only [List.mem_cons, List.not_mem_nil, or_false] at hbullet
      rcases hbullet with rfl | rfl | rfl <;> decide
    have hopen : Text.isBlank '(' = false := by decide
    have hskip : Text.skipBlanks (indent ++ [bullet] ++ space ++ "(".toList ++ name.toList ++
        ")".toList ++ rest) =
        bullet :: (space ++ ("(".toList ++ name.toList ++ ")".toList ++ rest)) :=
      (skipBlanks_eq_iff _ _).mpr ⟨indent, hindent, by simp, by simpa using hmark⟩
    have hspaced : Text.skipBlanks (space ++ ("(".toList ++ name.toList ++ ")".toList ++ rest)) =
        "(".toList ++ name.toList ++ ")".toList ++ rest :=
      (skipBlanks_eq_iff _ _).mpr ⟨space, hspace, rfl, by simpa using hopen⟩
    rw [hskip]
    dsimp only
    rw [if_pos ((isBullet_iff bullet).mpr hbullet), hspaced]
    exact (labelBody?_eq_some_iff _ name).mpr ⟨hname, rest, rfl⟩

lemma include?_eq_bind (line : List Char) :
    include? line =
      (after? ['I', 'N', 'C', 'L', 'U', 'D', 'E'] (Text.skipBlanks line)).bind fun rest =>
        (afterBlanks? rest).bind fun rest => (readName? rest).bind fun found =>
          (after? ['.', 'i', 'n', 'k'] found.2).bind fun rest =>
            if rest.head?.all Text.isBlank then
              some (String.ofList (found.1 ++ ['.', 'i', 'n', 'k']))
            else none := by
  unfold include?
  cases after? ['I', 'N', 'C', 'L', 'U', 'D', 'E'] (Text.skipBlanks line) with
  | none => rfl
  | some rest =>
    dsimp only [Option.bind_some]
    rw [← Option.bind_assoc]
    cases (afterBlanks? rest).bind readName? with
    | none => rfl
    | some found =>
      dsimp only [Option.bind_some]
      cases after? ['.', 'i', 'n', 'k'] found.2 <;> rfl

lemma include?_eq_some_iff (line : List Char) (name : String) :
    include? line = some name ↔ ∃ stem, name = stem ++ ".ink" ∧ IncludeLine line stem := by
  simp only [include?_eq_bind, Option.bind_eq_some_iff, after?_eq_some_iff,
    afterBlanks?_eq_some_iff]
  constructor
  · rintro ⟨_, hskip, _, ⟨gap, hgap, hne, rfl, _⟩, ⟨found, _⟩, hread, rest, rfl, h⟩
    split_ifs at h with hrest
    obtain rfl := Option.some.inj h
    obtain ⟨hname, rfl⟩ := (readName?_eq_some_iff _ _ _).mp hread
    obtain ⟨indent, hindent, rfl, _⟩ := (skipBlanks_eq_iff _ _).mp hskip
    refine ⟨String.ofList found, by simp, indent, gap, rest, hindent, hgap, hne, hname.declarable,
      ?_, by simp⟩
    simpa [Option.all_eq_true] using hrest
  · rintro ⟨stem, rfl, indent, gap, rest, hindent, hgap, hne, hstem, hrest, rfl⟩
    have hmark : Text.isBlank 'I' = false := by decide
    have hdot : isNameChar '.' = false := by decide
    refine ⟨gap ++ (stem.toList ++ (".ink".toList ++ rest)), ?_,
      stem.toList ++ (".ink".toList ++ rest), ⟨gap, hgap, hne, rfl, solid_name hstem⟩,
      (stem.toList, ".ink".toList ++ rest), ?_, rest, by simp, ?_⟩
    · exact (skipBlanks_eq_iff _ _).mpr ⟨indent, hindent, by simp, by simpa using hmark⟩
    · exact (readName?_eq_some_iff _ _ _).mpr ⟨⟨by simpa using hstem, by simpa using hdot⟩, rfl⟩
    · rw [if_pos (by simpa [Option.all_eq_true] using hrest)]
      simp

/-! ### The four kinds of line -/

/-- The kinds of structural line. -/
inductive Construct where
  | knot
  | stitch
  | label
  | inclusion
  deriving DecidableEq, Repr

namespace Construct

/-- The line is read as one of this kind. -/
def Reads (line : List Char) : Construct → Prop
  | knot => (knotHeader? line).isSome = true
  | stitch => (stitchHeader? line).isSome = true
  | label => (label? line).isSome = true
  | inclusion => (include? line).isSome = true

/-- The kind that the beginning of a line allows for behind the blanks. -/
def ofOpening? : List Char → Option Construct
  | '=' :: '=' :: _ => some knot
  | '=' :: _ => some stitch
  | 'I' :: _ => some inclusion
  | c :: _ => if isBullet c then some label else none
  | [] => none

end Construct

/-- A line is of the kind that its beginning allows for. -/
lemma ofOpening?_of_reads (line : List Char) (kind : Construct) (h : kind.Reads line) :
    Construct.ofOpening? (Text.skipBlanks line) = some kind := by
  cases kind with
  | knot =>
    obtain ⟨header, hheader⟩ := Option.isSome_iff_exists.mp h
    rw [knotHeader?_eq_bind] at hheader
    obtain ⟨rest, hafter, _⟩ := Option.bind_eq_some_iff.mp hheader
    rw [(after?_eq_some_iff _ _ _).mp hafter]
    rfl
  | stitch =>
    obtain ⟨name, hname⟩ := Option.isSome_iff_exists.mp h
    rw [stitchHeader?_eq] at hname
    unfold stitchBody? at hname
    split at hname
    · next rest hskip =>
      split_ifs at hname with hdouble
      rw [hskip]
      cases rest with
      | nil => rfl
      | cons c rest =>
        have hc : c ≠ '=' := by simpa using hdouble
        simp [Construct.ofOpening?, hc]
    · cases hname
  | label =>
    obtain ⟨name, hname⟩ := Option.isSome_iff_exists.mp h
    rw [label?_eq] at hname
    split at hname
    · cases hname
    · next bullet rest hskip =>
      split_ifs at hname with hbullet
      rw [isBullet_iff] at hbullet
      simp only [List.mem_cons, List.not_mem_nil, or_false] at hbullet
      rw [hskip]
      rcases hbullet with rfl | rfl | rfl <;> rfl
  | inclusion =>
    obtain ⟨name, hname⟩ := Option.isSome_iff_exists.mp h
    rw [include?_eq_bind] at hname
    obtain ⟨rest, hafter, _⟩ := Option.bind_eq_some_iff.mp hname
    rw [(after?_eq_some_iff _ _ _).mp hafter]
    rfl

/-- The recognisers accept the lines of the grammar with the names that stand in them, and no line
is of two kinds. Names are made of letters, digits and underscores in ASCII. -/
theorem lines_read_by_grammar (line : List Char) (name : String) :
    (knotHeader? line = some ⟨name, true⟩ ↔ FunctionLine line name) ∧
    (knotHeader? line = some ⟨name, false⟩ ↔
      KnotLine line name ∧ ¬∃ other, FunctionLine line other) ∧
    (stitchHeader? line = some name ↔ StitchLine line name) ∧
    (label? line = some name ↔ LabelLine line name) ∧
    (include? line = some name ↔ ∃ stem, name = stem ++ ".ink" ∧ IncludeLine line stem) ∧
    (∀ kind other : Construct, kind.Reads line → other.Reads line → kind = other) ∧
    ∀ c, isNameChar c = true ↔
      ('A' ≤ c ∧ c ≤ 'Z') ∨ ('a' ≤ c ∧ c ≤ 'z') ∨ ('0' ≤ c ∧ c ≤ '9') ∨ c = '_' := by
  refine ⟨knotHeader?_function_iff line name, knotHeader?_knot_iff line name,
    stitchHeader?_eq_some_iff line name, label?_eq_some_iff line name,
    include?_eq_some_iff line name, ?_, isNameChar_iff⟩
  intro kind other hkind hother
  rw [← Option.some_inj, ← ofOpening?_of_reads line kind hkind]
  exact ofOpening?_of_reads line other hother

end StoryAtlas.Proofs
