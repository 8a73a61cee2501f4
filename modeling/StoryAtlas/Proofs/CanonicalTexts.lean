import StoryAtlas.Proofs.LineGrammar
import StoryAtlas.Proofs.PathSpelling

/-!
# Texts of canonical paths

A canonical text starts with the slash or the two slashes of a root, and behind them stand names
with single slashes between them. The canonical form of any text is such a text, and such a text is
its own canonical form, whatever the current directory is. A story file next to another one is
named by the directory and the name of the file, without a need to take the canonical form again.
-/

namespace StoryAtlas.Proofs

/-- The canonical form of the path that is written `s`, seen from the directory that is written
`cwd`. -/
def canonicalText (cwd s : String) : String :=
  (Path.canonical (Path.ofString cwd) (Path.ofString s)).render

/-- The text names a root and behind it the names on the way down, none of which is empty, `.` or
`..`, with a slash between every two of them. -/
def IsCanonicalText (s : String) : Prop :=
  ∃ root names, (root = "/" ∨ root = "//") ∧
    (∀ name ∈ names, name ≠ "" ∧ name ≠ "." ∧ name ≠ ".." ∧ '/' ∉ name.toList) ∧
    s = root ++ String.intercalate "/" names

/-- The text of a directory with one more name behind it; a root has its slash already. -/
def joinText (directory name : String) : String :=
  if directory.toList.getLast? = some '/' then directory ++ name else directory ++ "/" ++ name

lemma text_of_anchored {anchor : Anchor} (h : anchor ≠ .relative) :
    anchor.text = "/" ∨ anchor.text = "//" := by
  cases anchor with
  | relative => exact absurd rfl h
  | root => exact Or.inl rfl
  | doubleRoot => exact Or.inr rfl

lemma render_of_anchored {p : Path} (h : p.anchor ≠ .relative) :
    p.render = p.anchor.text ++ String.intercalate "/" p.parts :=
  if_neg fun hdot => h hdot.1

/-- The canonical texts are the texts of canonical paths. -/
lemma isCanonicalText_iff (s : String) :
    IsCanonicalText s ↔ ∃ p : Path, IsCanonical p ∧ Spelled p ∧ p.render = s := by
  constructor
  · rintro ⟨root, names, hroot, hnames, rfl⟩
    obtain ⟨anchor, hanchor, rfl⟩ : ∃ anchor : Anchor, anchor ≠ .relative ∧ anchor.text = root := by
      rcases hroot with rfl | rfl
      · exact ⟨.root, by decide, rfl⟩
      · exact ⟨.doubleRoot, by decide, rfl⟩
    refine ⟨⟨anchor, names⟩, ⟨hanchor, fun name hname => (hnames name hname).2.2.1⟩, ?_,
      render_of_anchored hanchor⟩
    intro name hname
    obtain ⟨hempty, hdot, _, hslash⟩ := hnames name hname
    exact (isName_iff name).mpr ⟨hempty, hdot, hslash⟩
  · rintro ⟨p, hp, hspelled, rfl⟩
    refine ⟨p.anchor.text, p.parts, text_of_anchored hp.anchored, ?_,
      render_of_anchored hp.anchored⟩
    intro name hname
    obtain ⟨hempty, hdot, hslash⟩ := (isName_iff name).mp (hspelled name hname)
    exact ⟨hempty, hdot, hp.climbed name hname, hslash⟩

/-- A path does not end with a slash where it ends with a name. -/
lemma getLast?_intercalate {names : List String} (hne : names ≠ [])
    (h : ∀ name ∈ names, IsName name) :
    ∃ c, (String.intercalate "/" names).toList.getLast? = some c ∧ c ≠ '/' := by
  obtain ⟨front, last, rfl⟩ := (List.eq_nil_or_concat' names).resolve_left hne
  obtain ⟨hempty, _, hslash⟩ := (isName_iff last).mp (h last (by simp))
  obtain ⟨before, hbefore⟩ : ∃ before,
      (String.intercalate "/" (front ++ [last])).toList = before ++ last.toList := by
    by_cases hfront : front = []
    · exact ⟨[], by simp [hfront]⟩
    · refine ⟨(String.intercalate "/" front ++ "/").toList, ?_⟩
      rw [String.intercalate_append_of_ne_nil hfront (by simp)]
      simp
  obtain ⟨cs, c, hlast⟩ := (List.eq_nil_or_concat' last.toList).resolve_left (by simpa using hempty)
  refine ⟨c, by rw [hbefore, hlast]; simp, ?_⟩
  rintro rfl
  exact hslash (by simp [hlast])

/-- Only a root ends with a slash. -/
lemma getLast?_render_iff {p : Path} (h : p.anchor ≠ .relative) (hp : Spelled p) :
    p.render.toList.getLast? = some '/' ↔ p.parts = [] := by
  rw [render_of_anchored h, String.toList_append, List.getLast?_append]
  constructor
  · intro hslash
    by_contra hparts
    obtain ⟨c, hlast, hc⟩ := getLast?_intercalate hparts hp
    rw [hlast, Option.some_or, Option.some_inj] at hslash
    exact hc hslash
  · intro hparts
    rw [hparts]
    rcases text_of_anchored h with htext | htext <;> simp [htext]

lemma head?_render {p : Path} (h : p.anchor ≠ .relative) : p.render.toList.head? = some '/' := by
  rw [render_of_anchored h]
  rcases text_of_anchored h with htext | htext <;> simp [htext]

/-- One more name stands behind the text of a directory. -/
lemma render_child {p : Path} (h : p.anchor ≠ .relative) (hp : Spelled p) (name : String) :
    (p.child name).render = joinText p.render name := by
  have hchild : (p.child name).render =
      p.anchor.text ++ String.intercalate "/" (p.parts ++ [name]) := render_of_anchored h
  rw [hchild, joinText]
  by_cases hparts : p.parts = []
  · rw [if_pos ((getLast?_render_iff h hp).mpr hparts), render_of_anchored h, hparts]
    simp
  · rw [if_neg (fun hslash => hparts ((getLast?_render_iff h hp).mp hslash)),
      render_of_anchored h, String.intercalate_append_of_ne_nil hparts (by simp)]
    simp [String.append_assoc]

/-! ### Names of story files -/

/-- The name of a story file can stand in a path. -/
lemma isName_fileName {stem : String} (h : Declarable stem) :
    IsName (stem ++ ".ink") ∧ stem ++ ".ink" ≠ ".." := by
  obtain ⟨_, hchars⟩ := h
  have hlength : 4 ≤ (stem ++ ".ink").toList.length := by simp
  have hlong : ∀ other : String, other.toList.length < 4 → stem ++ ".ink" ≠ other := by
    rintro other hother rfl
    omega
  have hslash : '/' ∉ stem.toList := by
    intro hmem
    exact absurd (hchars '/' hmem) (by decide)
  refine ⟨(isName_iff _).mpr ⟨hlong "" (by decide), hlong "." (by decide), ?_⟩,
    hlong ".." (by decide)⟩
  rw [String.toList_append]
  simpa using hslash

/-! ### Canonical forms of texts -/

lemma isCanonicalText_canonicalText (cwd s : String) (hcwd : IsCanonicalText cwd) :
    IsCanonicalText (canonicalText cwd s) := by
  obtain ⟨base, hbase, hspelled, rfl⟩ := (isCanonicalText_iff cwd).mp hcwd
  unfold canonicalText
  rw [ofString_render base hspelled]
  exact (isCanonicalText_iff _).mpr ⟨_, isCanonical_canonical base _ hbase.anchored,
    spelled_canonical base _ hspelled (spelled_ofString s), rfl⟩

lemma canonicalText_of_isCanonicalText (cwd s : String) (h : IsCanonicalText s) :
    canonicalText cwd s = s := by
  obtain ⟨p, hp, hspelled, rfl⟩ := (isCanonicalText_iff s).mp h
  unfold canonicalText
  rw [ofString_render p hspelled, canonical_of_isCanonical _ p hp]

/-- The canonical form of a text is a canonical text: absolute, with nothing to be dropped, and with
no slash at its end unless it is a root. Only canonical texts are their own canonical form, so
taking it again changes nothing. For a story file in a canonical directory it is the text of the
directory with the name of the file behind it. -/
theorem canonical_texts_stay (cwd : String) (hcwd : IsCanonicalText cwd) :
    (∀ s, IsCanonicalText (canonicalText cwd s)) ∧
    (∀ s, canonicalText cwd (canonicalText cwd s) = canonicalText cwd s) ∧
    (∀ s, canonicalText cwd s = s ↔ IsCanonicalText s) ∧
    (∀ s, IsCanonicalText s →
      s.toList.head? = some '/' ∧ (s.toList.getLast? = some '/' → s = "/" ∨ s = "//")) ∧
    ∀ directory stem, IsCanonicalText directory → Declarable stem →
      (Path.canonical (Path.ofString cwd)
        ((Path.ofString directory).child (stem ++ ".ink"))).render =
          joinText directory (stem ++ ".ink") ∧
      IsCanonicalText (joinText directory (stem ++ ".ink")) := by
  have hform : ∀ s, IsCanonicalText (canonicalText cwd s) :=
    fun s => isCanonicalText_canonicalText cwd s hcwd
  refine ⟨hform, fun s => canonicalText_of_isCanonicalText cwd _ (hform s), ?_, ?_, ?_⟩
  · intro s
    refine ⟨?_, canonicalText_of_isCanonicalText cwd s⟩
    intro hsame
    rw [← hsame]
    exact hform s
  · rintro s hs
    obtain ⟨p, hp, hspelled, rfl⟩ := (isCanonicalText_iff s).mp hs
    refine ⟨head?_render hp.anchored, ?_⟩
    intro hslash
    rw [render_of_anchored hp.anchored, (getLast?_render_iff hp.anchored hspelled).mp hslash]
    simpa using text_of_anchored hp.anchored
  · intro directory stem hdirectory hstem
    obtain ⟨p, hp, hspelled, rfl⟩ := (isCanonicalText_iff directory).mp hdirectory
    obtain ⟨hname, hup⟩ := isName_fileName hstem
    have hchild := isCanonical_child p (stem ++ ".ink") hp hup
    have hjoined := render_child hp.anchored hspelled (stem ++ ".ink")
    rw [ofString_render p hspelled, canonical_of_isCanonical _ _ hchild]
    refine ⟨hjoined, (isCanonicalText_iff _).mpr ⟨_, hchild, ?_, hjoined⟩⟩
    exact spelled_child p _ hspelled hname

/-- Seen from `/w/x`, with a directory below the second root. -/
theorem canonical_texts_stay_second_root :
    IsCanonicalText "/w/x" ∧ IsCanonicalText "//d" ∧ Declarable "a_1" ∧
    canonicalText "/w/x" "..//a/./b/../" = "/w/a" ∧ IsCanonicalText "/w/a" ∧
    canonicalText "/w/x" (canonicalText "/w/x" "..//a/./b/../") = "/w/a" ∧
    (Path.canonical (Path.ofString "/w/x")
      ((Path.ofString "//d").child ("a_1" ++ ".ink"))).render = "//d/a_1.ink" := by
  have hcwd : IsCanonicalText "/w/x" := ⟨"/", ["w", "x"], by decide, by decide, by decide⟩
  have hdirectory : IsCanonicalText "//d" := ⟨"//", ["d"], by decide, by decide, by decide⟩
  have hstem : Declarable "a_1" := ⟨by decide, List.all_eq_true.mp (by decide)⟩
  have hform : canonicalText "/w/x" "..//a/./b/../" = "/w/a" := by decide +kernel
  have hjoined : joinText "//d" ("a_1" ++ ".ink") = "//d/a_1.ink" := by decide +kernel
  obtain ⟨hforms, hagain, _, _, hnext⟩ := canonical_texts_stay "/w/x" hcwd
  refine ⟨hcwd, hdirectory, hstem, hform, ?_, ?_, ?_⟩
  · rw [← hform]
    exact hforms _
  · rw [hagain, hform]
  · rw [(hnext "//d" "a_1" hdirectory hstem).1, hjoined]

end StoryAtlas.Proofs
