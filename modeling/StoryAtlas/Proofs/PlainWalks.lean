import StoryAtlas.Proofs.DiskNames

/-!
# Walks along plain names

A walk along names that stand for entries, with no link on the way, ends at the very place that the
names spell. So what the disk shows at a path without links is what its tree holds there, as long as
the names and the text of the path are not too long to be looked up at all.
-/

namespace StoryAtlas.Proofs
open StoryAtlas.Disk

/-- The name stands for an entry of a directory. -/
def IsPlain (name : String) : Prop :=
  IsName name ∧ name ≠ ".."

instance (name : String) : Decidable (IsPlain name) :=
  inferInstanceAs (Decidable ((Path.isSolid name = true ∧ '/' ∉ name.toList) ∧ name ≠ ".."))

/-- The name is short enough for an entry of a directory. -/
def Fits (name : String) : Prop :=
  name.utf8ByteSize ≤ maxNameBytes

instance (name : String) : Decidable (Fits name) :=
  inferInstanceAs (Decidable (name.utf8ByteSize ≤ maxNameBytes))

lemma ne_of_isPlain {name : String} (h : IsPlain name) : ¬(name = "" ∨ name = ".") := by
  have hsolid := h.1.1
  rintro (rfl | rfl) <;> simp [Path.isSolid] at hsolid

/-! ### Places in a tree -/

lemma get?_append_cons (tree node : Node) (place more : List String) (name : String)
    (h : tree.get? (place ++ name :: more) = some node) :
    ∃ entries child, tree.get? place = some (.dir entries) ∧ entries.lookup name = some child ∧
      child.get? more = some node := by
  rw [get?_append] at h
  obtain ⟨parent, hparent, hget⟩ := Option.bind_eq_some_iff.mp h
  cases parent with
  | file content => cases hget
  | link target => cases hget
  | dir entries =>
    simp only [Node.get?, Node.child?] at hget
    cases hchild : entries.lookup name with
    | none => simp [hchild] at hget
    | some child => exact ⟨entries, child, hparent, hchild, by simpa [hchild] using hget⟩

lemma get?_take_dir (tree : Node) (place : List String) (count : Nat)
    (h : ∃ entries, tree.get? place = some (.dir entries)) :
    ∃ entries, tree.get? (place.take count) = some (.dir entries) := by
  obtain ⟨entries, hget⟩ := h
  rw [← List.take_append_drop count place] at hget
  cases hdrop : place.drop count with
  | nil =>
    rw [hdrop, List.append_nil] at hget
    exact ⟨entries, hget⟩
  | cons name more =>
    rw [hdrop] at hget
    obtain ⟨entries, _, hdir, _⟩ := get?_append_cons tree _ _ more name hget
    exact ⟨entries, hdir⟩

/-! ### Walks -/

section Walks

variable (tree : Node) (wanted : Wanted) (expand : List String → List String → Except OsError Spot)

/-- A walk to an entry that stands in the tree finds it, unless a name on the way is too long. -/
lemma walkWith_entry (here names : List String) (node : Node)
    (hplain : ∀ name ∈ names, IsPlain name) (h : tree.get? (here ++ names) = some node) :
    walkWith tree .entry expand here names =
      if ∀ name ∈ names, Fits name then .ok ⟨here ++ names, some node⟩
      else .error .nameTooLong := by
  induction names generalizing here with
  | nil =>
    rw [List.append_nil] at h
    simp [walkWith, h]
  | cons name rest ih =>
    obtain ⟨hname, hrest⟩ := List.forall_mem_cons.mp hplain
    obtain ⟨entries, child, hhere, hchild, hget⟩ := get?_append_cons tree node here rest name h
    have hfile : ¬(Wanted.entry = .file ∧ isSlashes rest = true) := by simp
    unfold walkWith
    simp only [hhere, if_neg (ne_of_isPlain hname), if_neg hname.2, if_neg hfile, hchild]
    by_cases hfits : Fits name
    · have hlong : ¬maxNameBytes < name.utf8ByteSize := Nat.not_lt.mpr hfits
      have hnext := ih (here ++ [name]) hrest (by simpa using h)
      rw [List.append_assoc, List.singleton_append] at hnext
      rw [if_neg hlong]
      cases child with
      | file content =>
        dsimp only
        rw [hnext]
        simp [hfits]
      | dir below =>
        dsimp only
        rw [hnext]
        simp [hfits]
      | link target =>
        cases rest with
        | nil =>
          obtain rfl : .link target = node := by simpa [Node.get?] using hget
          simp [hfits]
        | cons next rest => cases hget
    · have hlong : maxNameBytes < name.utf8ByteSize := Nat.not_le.mp hfits
      rw [if_pos hlong, if_neg (fun hall => hfits (hall name List.mem_cons_self))]

/-- Climbing from a directory passes the directories above it and ends at the root. -/
lemma walkWith_climb (here rest : List String) (count : Nat)
    (h : ∃ entries, tree.get? here = some (.dir entries)) :
    walkWith tree wanted expand here (List.replicate count ".." ++ rest) =
      walkWith tree wanted expand (here.take (here.length - count)) rest := by
  induction count generalizing here with
  | zero => simp
  | succ count ih =>
    obtain ⟨entries, hhere⟩ := h
    have habove := get?_take_dir tree here (here.length - 1) ⟨entries, hhere⟩
    rw [← List.dropLast_eq_take] at habove
    have hnext := ih here.dropLast habove
    rw [List.replicate_succ, List.cons_append]
    conv_lhs => unfold walkWith
    have hdots : ¬(".." = "" ∨ ".." = ".") := by decide
    simp only [hhere, if_neg hdots, if_true]
    rw [hnext, List.length_dropLast, List.dropLast_eq_take, List.take_take]
    congr 2
    omega

/-- A walk that meets no link ends where its names lead. -/
lemma walkWith_straight (here names : List String) (spot : Spot)
    (hplain : ∀ name ∈ names, IsPlain name) (hhere : ∀ name ∈ here, Fits name)
    (hfree : ∀ place, place <+: here ++ names → (∀ name ∈ place, Fits name) →
      place ≠ here ++ names ∨ wanted ≠ .entry → ∀ target, tree.get? place ≠ some (.link target))
    (h : walkWith tree wanted expand here names = .ok spot) :
    spot.place = here ++ names ∧ ∀ name ∈ here ++ names, Fits name := by
  induction names generalizing here with
  | nil =>
    unfold walkWith at h
    split at h
    · obtain rfl := Except.ok.inj h
      simpa using hhere
    · cases h
  | cons name rest ih =>
    obtain ⟨hname, hrest⟩ := List.forall_mem_cons.mp hplain
    unfold walkWith at h
    split at h
    · next entries hdir =>
      rw [if_neg (ne_of_isPlain hname), if_neg hname.2] at h
      split at h
      · cases h
      split at h
      · cases h
      next hlong =>
      have hnext : ∀ part ∈ here ++ [name], Fits part :=
        List.forall_mem_append.mpr ⟨hhere, by simpa [Fits] using hlong⟩
      have hsplit : here ++ name :: rest = here ++ [name] ++ rest := by simp
      have hchild : tree.get? (here ++ [name]) = entries.lookup name := by
        rw [get?_append_singleton, hdir]
        rfl
      have hwalk : walkWith tree wanted expand (here ++ [name]) rest = .ok spot →
          spot.place = here ++ name :: rest ∧ ∀ part ∈ here ++ name :: rest, Fits part := by
        rw [hsplit] at hfree ⊢
        exact ih (here ++ [name]) hrest hnext hfree
      split at h
      · split_ifs at h with hend
        obtain rfl := Except.ok.inj h
        obtain rfl := List.isEmpty_iff.mp hend
        exact ⟨rfl, hnext⟩
      · next target hlookup =>
        split at h
        · next hend =>
          obtain rfl := Except.ok.inj h
          obtain rfl := List.isEmpty_iff.mp hend.1
          exact ⟨rfl, hnext⟩
        · next hend =>
          have hbefore : here ++ [name] ≠ here ++ name :: rest ∨ wanted ≠ .entry := by
            by_contra hboth
            obtain ⟨hsame, hentry⟩ := not_or.mp hboth
            have hnil : rest = [] := by simpa using hsame
            exact hend ⟨by simp [hnil], not_not.mp hentry⟩
          exact absurd (hchild.trans hlookup)
            (hfree _ (by rw [hsplit]; exact List.prefix_append _ _) hnext hbefore target)
      · exact hwalk h
    · cases h
    · cases h

end Walks

/-! ### Texts -/

lemma exists_intercalate_append (parts more : List String) :
    ∃ rest, String.intercalate "/" (parts ++ more) = String.intercalate "/" parts ++ rest := by
  induction parts with
  | nil => exact ⟨String.intercalate "/" more, by simp⟩
  | cons part parts ih =>
    cases parts with
    | nil =>
      cases more with
      | nil => exact ⟨"", by simp⟩
      | cons next more =>
        exact ⟨"/" ++ String.intercalate "/" (next :: more),
          by simp [String.intercalate_cons_cons, String.append_assoc]⟩
    | cons next parts =>
      obtain ⟨rest, hrest⟩ := ih
      refine ⟨rest, ?_⟩
      rw [List.cons_append] at hrest
      simp only [List.cons_append, String.intercalate_cons_cons, hrest, String.append_assoc]

lemma mem_intercalate (c : Char) (parts : List String) (hc : c ≠ '/') :
    c ∈ (String.intercalate "/" parts).toList ↔ ∃ part ∈ parts, c ∈ part.toList := by
  induction parts with
  | nil => simp
  | cons part parts ih =>
    cases parts with
    | nil => simp
    | cons next parts =>
      rw [String.intercalate_cons_cons, String.toList_append, String.toList_append]
      simp only [List.mem_append, ih]
      simp [hc]

lemma nul_mem_render (p : Path) :
    Char.ofNat 0 ∈ p.render.toList ↔ ∃ part ∈ p.parts, Char.ofNat 0 ∈ part.toList := by
  have hanchor : Char.ofNat 0 ∉ p.anchor.text.toList := by cases p.anchor <;> decide
  unfold Path.render
  split_ifs with hdot
  · simp [hdot.2]
  · rw [String.toList_append, List.mem_append, mem_intercalate _ _ (by decide)]
    simp [hanchor]

lemma nul_not_mem_render (p q : Path) (hp : Char.ofNat 0 ∉ p.render.toList)
    (h : ∀ part ∈ q.parts, part ∈ p.parts ∨ part = "..") : Char.ofNat 0 ∉ q.render.toList := by
  intro hnul
  obtain ⟨part, hpart, hmem⟩ := (nul_mem_render q).mp hnul
  rcases h part hpart with hold | rfl
  · exact hp ((nul_mem_render p).mpr ⟨part, hold, hmem⟩)
  · revert hmem
    decide

lemma size_render_append (anchor : Anchor) (parts more : List String)
    (h : anchor ≠ .relative ∨ parts ≠ []) :
    (Path.render ⟨anchor, parts⟩).utf8ByteSize ≤
      (Path.render ⟨anchor, parts ++ more⟩).utf8ByteSize := by
  obtain ⟨rest, hrest⟩ := exists_intercalate_append parts more
  have hparts : ¬(anchor = .relative ∧ parts = []) := by tauto
  have hmore : ¬(anchor = .relative ∧ parts ++ more = []) := by
    rintro ⟨hanchor, hnil⟩
    exact hparts ⟨hanchor, (List.append_eq_nil_iff.mp hnil).1⟩
  unfold Path.render
  rw [if_neg hparts, if_neg hmore, hrest]
  simp only [String.utf8ByteSize_append]
  omega

/-! ### Lookups -/

lemma askable_append (parts more : List String) (h : Askable ⟨.root, parts ++ more⟩) :
    Askable ⟨.root, parts⟩ := by
  have hsize := size_render_append .root parts more (Or.inl (by decide))
  exact ⟨nul_not_mem_render _ _ h.1 (fun part hpart => Or.inl (List.mem_append_left more hpart)),
    Nat.le_trans hsize h.2⟩

/-- A path that climbs from where its walk begins and then goes down along plain names shows the
entry of the tree to which it leads. -/
lemma nodeAt_entry (disk : Disk) (p : Path) (count : Nat) (names : List String) (node : Node)
    (hstart : ∃ entries, disk.tree.get? (startOf disk p) = some (.dir entries))
    (hparts : p.parts = List.replicate count ".." ++ names) (hplain : ∀ name ∈ names, IsPlain name)
    (hfits : ∀ name ∈ names, Fits name) (hp : Askable p)
    (hget : disk.tree.get? ((startOf disk p).take ((startOf disk p).length - count) ++ names) =
      some node) : disk.nodeAt .entry p = .ok node := by
  have hentry := walkWith_entry disk.tree (walk disk.tree .entry maxLinks) _ names node hplain hget
  rw [if_pos hfits] at hentry
  have hwalk := (walkWith_climb disk.tree .entry _ (startOf disk p) names count hstart).trans hentry
  rw [← hparts] at hwalk
  exact (nodeAt_eq_ok_iff disk .entry p node).mpr
    ⟨_, (locate_eq_ok_iff disk .entry p _).mpr ⟨hp, hwalk⟩⟩

/-- A lookup along plain names with no link on the way, and none at the end unless it is wanted,
ends where the names say. -/
lemma locate_straight (disk : Disk) (wanted : Wanted) (names : List String) (spot : Spot)
    (htree : ∃ entries, disk.tree.get? [] = some (.dir entries))
    (hplain : ∀ name ∈ names, IsPlain name)
    (hfree : ∀ parts, parts <+: names → parts ≠ names ∨ wanted ≠ .entry →
      ∀ target, disk.nodeAt .entry ⟨.root, parts⟩ ≠ .ok (.link target))
    (h : disk.locate wanted ⟨.root, names⟩ = .ok spot) :
    spot.place = names ∧ ∀ name ∈ names, Fits name := by
  obtain ⟨hp, hwalk⟩ := (locate_eq_ok_iff disk wanted _ spot).mp h
  refine walkWith_straight disk.tree wanted _ [] names spot hplain (by simp) ?_ hwalk
  intro place hplace hfits hend target hget
  have hshown : Askable ⟨.root, place⟩ := by
    obtain ⟨more, rfl⟩ := hplace
    exact askable_append place more hp
  have hplace' : ∀ name ∈ place, IsPlain name := fun name hname => hplain name (hplace.subset hname)
  exact hfree place hplace hend target
    (nodeAt_entry disk _ 0 place _ htree rfl hplace' hfits hshown hget)

end StoryAtlas.Proofs
