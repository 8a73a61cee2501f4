import StoryAtlas.Proofs.PlainWalks

/-!
# Trees that grow by files

A file is put where there was one or nothing. The directories and the links of the tree stay as they
are, and so a walk that ended somewhere ends at the same place afterwards, and no walk ends at a
link that did not end there before.
-/

namespace StoryAtlas.Proofs
open StoryAtlas.Disk

/-! ### A file set in a tree -/

lemma lookup_cons_eq_ite (key other : String) (node : Node) (rest : Entries) :
    List.lookup other ((key, node) :: rest) =
      if other = key then some node else rest.lookup other := by
  by_cases hother : other = key
  · simp [hother]
  · have hbeq : (other == key) = false := beq_eq_false_iff_ne.mpr hother
    rw [List.lookup_cons, hbeq, if_neg hother]

lemma lookup_alter (name other : String) (change : Option Node → Option Node) (entries : Entries)
    (hchange : ∀ node, change (some node) ≠ none) :
    (Entries.alter name change entries).lookup other =
      if other = name then change (entries.lookup name) else entries.lookup other := by
  induction entries with
  | nil =>
    cases hnew : change none with
    | none => simp [Entries.alter, hnew]
    | some node => simp [Entries.alter, hnew, lookup_cons_eq_ite]
  | cons entry rest ih =>
    obtain ⟨key, node⟩ := entry
    unfold Entries.alter
    by_cases hkey : key = name
    · subst hkey
      cases hnew : change (some node) with
      | none => exact absurd hnew (hchange node)
      | some new =>
        by_cases hother : other = key
        · simp [hother, hnew]
        · simp [hother, lookup_cons_eq_ite]
    · rw [if_neg hkey, lookup_cons_eq_ite, lookup_cons_eq_ite, lookup_cons_eq_ite, ih]
      by_cases hother : other = key
      · have hne : other ≠ name := fun h => hkey (hother.symm.trans h)
        rw [if_pos hother, if_neg hne, if_pos hother]
      · rw [if_neg hother, if_neg hother, if_neg (Ne.symm hkey)]

lemma set_cons (entries : Entries) (name : String) (rest : List String) (new : Node)
    (hrest : rest ≠ []) :
    (Node.dir entries).set (name :: rest) new =
      .dir (Entries.alter name (fun found => found.map fun node => node.set rest new) entries) := by
  cases rest with
  | nil => exact absurd rfl hrest
  | cons next rest => rfl

/-- At the place there is a file or nothing, in a directory. -/
def Fileable (tree : Node) (place : List String) : Prop :=
  ∃ parent name entries, place = parent ++ [name] ∧ tree.get? parent = some (.dir entries) ∧
    ∀ node, entries.lookup name = some node → ∃ content, node = .file content

/-- A file that is set in a tree stands at its place. Any other place keeps what it has, except that
a directory on the way to the file holds it now. -/
lemma get?_set_file (tree : Node) (place other : List String) (content : ByteArray)
    (h : Fileable tree place) :
    (other = place → (tree.set place (.file content)).get? other = some (.file content)) ∧
      (other ≠ place → (tree.set place (.file content)).get? other = tree.get? other ∨
        (∃ entries, tree.get? other = some (.dir entries)) ∧
          ∃ entries, (tree.set place (.file content)).get? other = some (.dir entries)) := by
  obtain ⟨parent, name, entries, rfl, hdir, hold⟩ := h
  induction parent generalizing tree other with
  | nil =>
    obtain rfl : tree = .dir entries := by simpa [Node.get?] using hdir
    have hset : (Node.dir entries).set ([] ++ [name]) (.file content) =
        .dir (Entries.alter name (fun _ => some (.file content)) entries) := rfl
    rw [hset]
    cases other with
    | nil => exact ⟨by simp, fun _ => Or.inr ⟨⟨_, rfl⟩, _, rfl⟩⟩
    | cons first rest =>
      have hlookup := lookup_alter name first (fun _ => some (.file content)) entries (by simp)
      simp only [Node.get?, Node.child?, hlookup]
      by_cases hfirst : first = name
      · subst hfirst
        cases rest with
        | nil => simp [Node.get?]
        | cons next rest =>
          refine ⟨by simp, fun _ => Or.inl ?_⟩
          cases hfound : entries.lookup first with
          | none => simp [Node.get?, Node.child?]
          | some node =>
            obtain ⟨bytes, rfl⟩ := hold node hfound
            simp [Node.get?, Node.child?]
      · simp [hfirst]
  | cons first parent ih =>
    cases tree with
    | file bytes => cases hdir
    | link target => cases hdir
    | dir outer =>
      cases hchild : outer.lookup first with
      | none => simp [Node.get?, Node.child?, hchild] at hdir
      | some child =>
        have hbelow : child.get? parent = some (.dir entries) := by
          simpa [Node.get?, Node.child?, hchild] using hdir
        rw [List.cons_append, set_cons _ _ _ _ (by simp)]
        cases other with
        | nil => exact ⟨by simp, fun _ => Or.inr ⟨⟨_, rfl⟩, _, rfl⟩⟩
        | cons next rest =>
          have hlookup := lookup_alter first next
            (fun found => found.map fun node => node.set (parent ++ [name]) (.file content)) outer
            (by simp)
          simp only [Node.get?, Node.child?, hlookup]
          by_cases hnext : next = first
          · subst hnext
            simpa [hchild] using ih child rest hbelow
          · simp [hnext]

/-- The directories and the links of the first tree are those of the second, and the files of the
first are files in the second. -/
structure Grown (tree grown : Node) : Prop where
  dir : ∀ place, (∃ entries, tree.get? place = some (.dir entries)) ↔
    ∃ entries, grown.get? place = some (.dir entries)
  link : ∀ place target, tree.get? place = some (.link target) ↔
    grown.get? place = some (.link target)
  file : ∀ place, (∃ content, tree.get? place = some (.file content)) →
    ∃ content, grown.get? place = some (.file content)

lemma get?_of_fileable {tree : Node} {place : List String} (h : Fileable tree place) :
    tree.get? place = none ∨ ∃ content, tree.get? place = some (.file content) := by
  obtain ⟨parent, name, entries, rfl, hdir, hold⟩ := h
  have hget : tree.get? (parent ++ [name]) = entries.lookup name := by
    rw [get?_append_singleton, hdir]
    rfl
  rw [hget]
  cases hlookup : entries.lookup name with
  | none => exact Or.inl rfl
  | some node =>
    obtain ⟨content, rfl⟩ := hold node hlookup
    exact Or.inr ⟨content, rfl⟩

lemma grown_set (tree : Node) (place : List String) (content : ByteArray)
    (h : Fileable tree place) : Grown tree (tree.set place (.file content)) := by
  have hplace := get?_of_fileable h
  constructor
  · intro other
    obtain ⟨hself, hother⟩ := get?_set_file tree place other content h
    by_cases hne : other = place
    · rw [hself hne, hne]
      rcases hplace with hnone | ⟨bytes, hfile⟩ <;> simp [*]
    · rcases hother hne with hsame | ⟨hdir, hdir'⟩
      · rw [hsame]
      · exact ⟨fun _ => hdir', fun _ => hdir⟩
  · intro other target
    obtain ⟨hself, hother⟩ := get?_set_file tree place other content h
    by_cases hne : other = place
    · rw [hself hne, hne]
      rcases hplace with hnone | ⟨bytes, hfile⟩ <;> simp [*]
    · rcases hother hne with hsame | ⟨⟨entries, hdir⟩, entries', hdir'⟩
      · rw [hsame]
      · simp [hdir, hdir']
  · rintro other ⟨bytes, hfile⟩
    obtain ⟨hself, hother⟩ := get?_set_file tree place other content h
    by_cases hne : other = place
    · exact ⟨content, hself hne⟩
    · rcases hother hne with hsame | ⟨⟨entries, hdir⟩, _⟩
      · exact ⟨bytes, hsame.trans hfile⟩
      · simp [hdir] at hfile

/-! ### Walks in a tree that has grown -/

/-- If the first walk ends somewhere, the second ends at the same place, and if the second ends at a
link, so does the first. -/
structure Follows (before after : Except OsError Spot) : Prop where
  place : ∀ spot, before = .ok spot → ∃ node, after = .ok ⟨spot.place, node⟩
  link : ∀ place target, after = .ok ⟨place, some (.link target)⟩ →
    before = .ok ⟨place, some (.link target)⟩

lemma follows_refl (result : Except OsError Spot) : Follows result result :=
  ⟨fun spot h => ⟨spot.node, h⟩, fun _ _ h => h⟩

lemma follows_error (e e' : OsError) : Follows (.error e) (.error e') := by
  constructor
  · intro spot h
    cases h
  · intro place target h
    cases h

lemma follows_created (place : List String) (content : ByteArray) :
    Follows (.ok ⟨place, none⟩) (.ok ⟨place, some (.file content)⟩) := by
  constructor
  · intro spot h
    obtain rfl := Except.ok.inj h
    exact ⟨_, rfl⟩
  · intro found target h
    simp at h

lemma lookup_eq_get? {tree : Node} {here : List String} {entries : Entries}
    (h : tree.get? here = some (.dir entries)) (name : String) :
    entries.lookup name = tree.get? (here ++ [name]) := by
  rw [get?_append_singleton, h]
  rfl

lemma walkWith_file {tree : Node} {here : List String} {content : ByteArray} (wanted : Wanted)
    (expand : List String → List String → Except OsError Spot) (names : List String)
    (h : tree.get? here = some (.file content)) :
    walkWith tree wanted expand here names =
      if names = [] then .ok ⟨here, some (.file content)⟩ else .error .notDirectory := by
  cases names <;> simp [walkWith, h]

section Walks

variable {tree grown : Node} (hgrown : Grown tree grown) (wanted : Wanted)
  (expand expand' : List String → List String → Except OsError Spot)

include hgrown

lemma isSome_get?_grown {place : List String} {node : Node} (h : tree.get? place = some node) :
    ∃ found, grown.get? place = some found := by
  cases node with
  | file content =>
    obtain ⟨bytes, hfile⟩ := hgrown.file place ⟨content, h⟩
    exact ⟨_, hfile⟩
  | link target => exact ⟨_, (hgrown.link place target).mp h⟩
  | dir entries =>
    obtain ⟨entries', hdir⟩ := (hgrown.dir place).mp ⟨entries, h⟩
    exact ⟨_, hdir⟩

lemma follows_nil (here : List String) :
    Follows (walkWith tree wanted expand here []) (walkWith grown wanted expand' here []) := by
  unfold walkWith
  constructor
  · intro spot h
    split at h
    · next node hnode =>
      obtain rfl := Except.ok.inj h
      obtain ⟨found, hfound⟩ := isSome_get?_grown hgrown hnode
      exact ⟨some found, by rw [hfound]⟩
    · cases h
  · intro place target h
    split at h
    · next node hnode =>
      obtain ⟨rfl, rfl⟩ : here = place ∧ node = .link target := by simpa using h
      rw [(hgrown.link here target).mpr hnode]
    · cases h

/-- A name that both walks look up. What has come to stand there in between is a file. -/
lemma follows_entry (hexpand : ∀ here names, Follows (expand here names) (expand' here names))
    (here rest : List String) (name : String)
    (hgo : Follows (walkWith tree wanted expand (here ++ [name]) rest)
      (walkWith grown wanted expand' (here ++ [name]) rest)) :
    Follows
      (match tree.get? (here ++ [name]) with
        | none => if rest.isEmpty then .ok ⟨here ++ [name], none⟩ else .error .notFound
        | some (.link target) =>
          if rest.isEmpty ∧ wanted = .entry then .ok ⟨here ++ [name], some (.link target)⟩
          else expand (if Anchor.ofChars target.toList = .relative then here else [])
            (targetParts target ++ rest)
        | some _ => walkWith tree wanted expand (here ++ [name]) rest)
      (match grown.get? (here ++ [name]) with
        | none => if rest.isEmpty then .ok ⟨here ++ [name], none⟩ else .error .notFound
        | some (.link target) =>
          if rest.isEmpty ∧ wanted = .entry then .ok ⟨here ++ [name], some (.link target)⟩
          else expand' (if Anchor.ofChars target.toList = .relative then here else [])
            (targetParts target ++ rest)
        | some _ => walkWith grown wanted expand' (here ++ [name]) rest) := by
  cases hfound : tree.get? (here ++ [name]) with
  | none =>
    cases hnew : grown.get? (here ++ [name]) with
    | none =>
      dsimp only
      exact follows_refl _
    | some node =>
      cases node with
      | file content =>
        -- the one node that can be new; a walk through it fails as before, by another error
        dsimp only
        rw [walkWith_file wanted expand' rest hnew]
        cases rest with
        | nil => exact follows_created _ content
        | cons next rest => exact follows_error _ _
      | link target => simp [(hgrown.link _ target).mpr hnew] at hfound
      | dir entries =>
        obtain ⟨before, hbefore⟩ := (hgrown.dir _).mpr ⟨entries, hnew⟩
        simp [hbefore] at hfound
  | some node =>
    cases node with
    | file content =>
      obtain ⟨bytes, hfile⟩ := hgrown.file _ ⟨content, hfound⟩
      rw [hfile]
      exact hgo
    | link target =>
      rw [(hgrown.link _ target).mp hfound]
      dsimp only
      split_ifs
      · exact follows_refl _
      all_goals exact hexpand _ _
    | dir entries =>
      obtain ⟨entries', hdir⟩ := (hgrown.dir _).mp ⟨entries, hfound⟩
      rw [hdir]
      exact hgo

lemma walkWith_follows (hexpand : ∀ here names, Follows (expand here names) (expand' here names))
    (here names : List String) :
    Follows (walkWith tree wanted expand here names)
      (walkWith grown wanted expand' here names) := by
  induction names generalizing here with
  | nil => exact follows_nil hgrown wanted expand expand' here
  | cons name rest ih =>
    by_cases hdir : ∃ entries, tree.get? here = some (.dir entries)
    · obtain ⟨entries', hhere'⟩ := (hgrown.dir here).mp hdir
      obtain ⟨entries, hhere⟩ := hdir
      unfold walkWith
      rw [hhere, hhere']
      dsimp only
      by_cases hdot : name = "" ∨ name = "."
      · rw [if_pos hdot, if_pos hdot]
        exact ih here
      rw [if_neg hdot, if_neg hdot]
      by_cases hup : name = ".."
      · rw [if_pos hup, if_pos hup]
        exact ih here.dropLast
      rw [if_neg hup, if_neg hup]
      by_cases hslashes : wanted = .file ∧ isSlashes rest = true
      · rw [if_pos hslashes, if_pos hslashes]
        exact follows_error _ _
      rw [if_neg hslashes, if_neg hslashes]
      by_cases hlong : maxNameBytes < name.utf8ByteSize
      · rw [if_pos hlong, if_pos hlong]
        exact follows_error _ _
      rw [if_neg hlong, if_neg hlong, lookup_eq_get? hhere, lookup_eq_get? hhere']
      exact follows_entry hgrown wanted expand expand' hexpand here rest name (ih (here ++ [name]))
    · have hdir' : ¬∃ entries, grown.get? here = some (.dir entries) :=
        fun h => hdir ((hgrown.dir here).mpr h)
      have herror : ∀ (tree : Node) (expand : List String → List String → Except OsError Spot),
          (¬∃ entries, tree.get? here = some (.dir entries)) →
            ∃ e, walkWith tree wanted expand here (name :: rest) = .error e := by
        intro tree expand hno
        unfold walkWith
        split
        · next entries hhere => exact absurd ⟨entries, hhere⟩ hno
        · exact ⟨_, rfl⟩
        · exact ⟨_, rfl⟩
      obtain ⟨e, he⟩ := herror tree expand hdir
      obtain ⟨e', he'⟩ := herror grown expand' hdir'
      rw [he, he']
      exact follows_error e e'

lemma walk_follows (links : Nat) (here names : List String) :
    Follows (walk tree wanted links here names) (walk grown wanted links here names) := by
  induction links generalizing here names with
  | zero => exact follows_error _ _
  | succ links ih => exact walkWith_follows hgrown wanted _ _ ih here names

end Walks

end StoryAtlas.Proofs
