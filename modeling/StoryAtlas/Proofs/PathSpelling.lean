import Mathlib.Data.List.Basic
import StoryAtlas.Path

/-!
# Canonical paths and their texts

A canonical path is anchored and has no `..`, and it is its own canonical form whatever the current
directory is. A path is spelled if its components are names that a text can hold between slashes;
writing a spelled anchored path and reading the text gives the path back.
-/

namespace StoryAtlas.Proofs

/-- The path is anchored and climbs nowhere. -/
structure IsCanonical (p : Path) : Prop where
  anchored : p.anchor ≠ .relative
  climbed : ∀ part ∈ p.parts, part ≠ ".."

lemma mem_push {stack : List String} {part name : String} (h : name ∈ Path.push stack part) :
    name ∈ stack ∨ name = part ∧ part ≠ ".." := by
  unfold Path.push at h
  split_ifs at h with hup
  · exact Or.inl (List.mem_of_mem_tail h)
  · rcases List.mem_cons.mp h with rfl | hmem
    · exact Or.inr ⟨rfl, hup⟩
    · exact Or.inl hmem

lemma mem_foldl_push {parts stack : List String} {name : String}
    (h : name ∈ parts.foldl Path.push stack) : name ∈ stack ∨ name ∈ parts ∧ name ≠ ".." := by
  induction parts generalizing stack with
  | nil => exact Or.inl h
  | cons part parts ih =>
    rcases ih h with hmem | ⟨hmem, hne⟩
    · rcases mem_push hmem with hstack | ⟨rfl, hne⟩
      · exact Or.inl hstack
      · exact Or.inr ⟨List.mem_cons_self, hne⟩
    · exact Or.inr ⟨List.mem_cons_of_mem _ hmem, hne⟩

lemma mem_climb {parts : List String} {name : String} (h : name ∈ Path.climb parts) :
    name ∈ parts ∧ name ≠ ".." := by
  have hmem : name ∈ parts.foldl Path.push [] := List.mem_reverse.mp h
  exact (mem_foldl_push hmem).resolve_left (by simp)

lemma under_anchor_ne (base p : Path) (h : base.anchor ≠ .relative) :
    (base.under p).anchor ≠ .relative := by
  unfold Path.under
  split_ifs with hp
  · exact h
  · exact hp

theorem isCanonical_canonical (base p : Path) (h : base.anchor ≠ .relative) :
    IsCanonical (Path.canonical base p) :=
  ⟨under_anchor_ne base p h, fun _ hpart => (mem_climb hpart).2⟩

/-- A canonical path is its own canonical form. -/
theorem canonical_of_isCanonical (base p : Path) (h : IsCanonical p) :
    Path.canonical base p = p := by
  have hunder : base.under p = p := if_neg h.anchored
  unfold Path.canonical
  rw [hunder, Path.climb_of_forall_ne h.climbed]

lemma isCanonical_child (p : Path) (name : String) (h : IsCanonical p) (hname : name ≠ "..") :
    IsCanonical (p.child name) := by
  refine ⟨h.anchored, ?_⟩
  intro part hpart
  rcases List.mem_append.mp hpart with hmem | hmem
  · exact h.climbed part hmem
  · obtain rfl : part = name := by simpa using hmem
    exact hname

lemma isCanonical_parent (p : Path) (h : IsCanonical p) : IsCanonical p.parent :=
  ⟨h.anchored, fun part hpart => h.climbed part (List.dropLast_subset _ hpart)⟩

lemma parent_child (p : Path) (name : String) : (p.child name).parent = p := by
  simp [Path.child, Path.parent]

/-! ### Texts -/

/-- The name can stand between two slashes: it is solid and has no slash of its own. -/
def IsName (name : String) : Prop :=
  Path.isSolid name = true ∧ '/' ∉ name.toList

lemma isName_iff (name : String) :
    IsName name ↔ name ≠ "" ∧ name ≠ "." ∧ '/' ∉ name.toList := by
  simp [IsName, Path.isSolid, and_assoc]

/-- The components of the path are names. -/
def Spelled (p : Path) : Prop :=
  ∀ part ∈ p.parts, IsName part

lemma split_eq_splitOn (sep : Char) (cs : List Char) : Text.split sep cs = cs.splitOn sep := by
  induction cs with
  | nil => simp
  | cons c cs ih =>
    have hcons : ∀ pieces : List (List Char), pieces ≠ [] →
        Text.consPiece c pieces = pieces.modifyHead (List.cons c) := by
      intro pieces hne
      cases pieces with
      | nil => exact absurd rfl hne
      | cons piece pieces => rfl
    rw [Text.split_cons, List.splitOn_cons_eq_if_modifyHead, ih,
      hcons _ (List.splitOn_ne_nil sep cs)]
    simp only [beq_iff_eq]

lemma not_mem_of_mem_splitOn (sep : Char) (cs piece : List Char) (h : piece ∈ cs.splitOn sep) :
    sep ∉ piece := by
  induction cs generalizing piece with
  | nil =>
    obtain rfl : piece = [] := by simpa using h
    simp
  | cons c cs ih =>
    rw [List.splitOn_cons_eq_if_modifyHead] at h
    obtain ⟨first, rest, hsplit⟩ := List.exists_cons_of_ne_nil (List.splitOn_ne_nil sep cs)
    simp only [hsplit, beq_iff_eq] at h ih
    split_ifs at h with hc
    · rcases List.mem_cons.mp h with rfl | hmem
      · simp
      · exact ih piece hmem
    · rcases List.mem_cons.mp h with rfl | hmem
      · have hfirst : sep ∉ first := ih first List.mem_cons_self
        simp [hfirst, Ne.symm hc]
      · exact ih piece (List.mem_cons_of_mem _ hmem)

theorem spelled_ofString (s : String) : Spelled (Path.ofString s) := by
  intro part hpart
  obtain ⟨hsplit, hsolid⟩ := List.mem_filter.mp hpart
  obtain ⟨piece, hpiece, rfl⟩ := List.mem_map.mp hsplit
  rw [split_eq_splitOn] at hpiece
  exact ⟨hsolid, by simpa using not_mem_of_mem_splitOn '/' _ piece hpiece⟩

lemma spelled_under (base p : Path) (hbase : Spelled base) (hp : Spelled p) :
    Spelled (base.under p) := by
  unfold Path.under
  split_ifs
  · exact List.forall_mem_append.mpr ⟨hbase, hp⟩
  · exact hp

theorem spelled_canonical (base p : Path) (hbase : Spelled base) (hp : Spelled p) :
    Spelled (Path.canonical base p) :=
  fun part hpart => spelled_under base p hbase hp part (mem_climb hpart).1

lemma spelled_child (p : Path) (name : String) (hp : Spelled p) (hname : IsName name) :
    Spelled (p.child name) :=
  List.forall_mem_append.mpr ⟨hp, by simpa using hname⟩

lemma spelled_parent (p : Path) (hp : Spelled p) : Spelled p.parent :=
  fun part hpart => hp part (List.dropLast_subset _ hpart)

lemma solidParts_intercalate (parts : List String) (h : ∀ part ∈ parts, IsName part) :
    (Text.splitText '/' (String.intercalate "/" parts)).filter Path.isSolid = parts := by
  by_cases hparts : parts = []
  · subst hparts
    simp [Text.splitText, Path.isSolid]
  · have hslash : ∀ cs ∈ parts.map String.toList, '/' ∉ cs := by
      intro cs hcs
      obtain ⟨part, hpart, rfl⟩ := List.mem_map.mp hcs
      exact (h part hpart).2
    have hsplit : Text.splitText '/' (String.intercalate "/" parts) = parts := by
      unfold Text.splitText
      rw [split_eq_splitOn, String.toList_intercalate]
      refine (congrArg _ (List.splitOn_intercalate '/' hslash (by simpa using hparts))).trans ?_
      simp
    rw [hsplit, List.filter_eq_self]
    exact fun part hpart => (h part hpart).1

lemma solidParts_anchored (anchor : Anchor) (s : String) :
    (Text.splitText '/' (anchor.text ++ s)).filter Path.isSolid =
      (Text.splitText '/' s).filter Path.isSolid := by
  cases anchor <;> simp [Anchor.text, Text.splitText, Path.isSolid]

lemma head?_intercalate_ne (parts : List String) (h : ∀ part ∈ parts, IsName part) :
    (String.intercalate "/" parts).toList.head? ≠ some '/' := by
  cases parts with
  | nil => simp
  | cons part rest =>
    obtain ⟨hsolid, hslash⟩ := h part List.mem_cons_self
    have hne : part.toList ≠ [] := by
      intro hnil
      have hpart : part = "" := by simpa using hnil
      simp [Path.isSolid, hpart] at hsolid
    obtain ⟨c, cs, hcs⟩ := List.exists_cons_of_ne_nil hne
    have hc : c ≠ '/' := by
      rintro rfl
      exact hslash (by simp [hcs])
    cases rest <;> simp [hcs, hc]

lemma ofChars_anchored (anchor : Anchor) (cs : List Char) (h : cs.head? ≠ some '/') :
    Anchor.ofChars (anchor.text.toList ++ cs) = anchor := by
  have hcases : cs = [] ∨ ∃ c rest, cs = c :: rest ∧ c ≠ '/' := by
    cases cs with
    | nil => exact Or.inl rfl
    | cons c rest => exact Or.inr ⟨c, rest, rfl, by simpa using h⟩
  rcases hcases with rfl | ⟨c, rest, rfl, hc⟩
  · cases anchor <;> rfl
  · cases anchor <;> simp [Anchor.text, Anchor.ofChars, hc]

/-- Writing a spelled path and reading the text gives the path back. -/
theorem ofString_render (p : Path) (h : Spelled p) : Path.ofString p.render = p := by
  unfold Path.render
  split_ifs with hdot
  · obtain ⟨anchor, parts⟩ := p
    obtain ⟨rfl, rfl⟩ := hdot
    decide
  · have hanchor : Anchor.ofChars (p.anchor.text ++ String.intercalate "/" p.parts).toList =
        p.anchor := by
      rw [String.toList_append]
      exact ofChars_anchored p.anchor _ (head?_intercalate_ne p.parts h)
    unfold Path.ofString
    rw [hanchor, solidParts_anchored, solidParts_intercalate p.parts h]

end StoryAtlas.Proofs
