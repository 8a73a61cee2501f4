import StoryAtlas.Disk.Change
import StoryAtlas.Proofs.GrownTrees

/-!
# Writing behind the end of a file

A path that can be written to leads to the same place before and after a write. The file there has
the new bytes behind its old ones, and the files at other places have the bytes that they had.
-/

namespace StoryAtlas.Proofs
open StoryAtlas.Disk

/-! ### Places to write to -/

section Missing

variable (tree : Node) (wanted : Wanted)

/-- The place is in a directory that does not have its last name. -/
def Missing (tree : Node) (place : List String) (plain : Prop) : Prop :=
  ∃ parent name entries, place = parent ++ [name] ∧ tree.get? parent = some (.dir entries) ∧
    entries.lookup name = none ∧ (plain → IsPlain name)

lemma walkWith_missing (expand : List String → List String → Except OsError Spot)
    (hexpand : ∀ here names place, expand here names = .ok ⟨place, none⟩ →
      Missing tree place (∀ name ∈ names, '/' ∉ name.toList))
    (here names place : List String)
    (h : walkWith tree wanted expand here names = .ok ⟨place, none⟩) :
    Missing tree place (∀ name ∈ names, '/' ∉ name.toList) := by
  induction names generalizing here with
  | nil =>
    unfold walkWith at h
    split at h <;> simp at h
  | cons name rest ih =>
    have hshorter : Missing tree place (∀ part ∈ rest, '/' ∉ part.toList) →
        Missing tree place (∀ part ∈ name :: rest, '/' ∉ part.toList) := by
      rintro ⟨parent, last, entries, hplace, hdir, hnone, hplain⟩
      exact ⟨parent, last, entries, hplace, hdir, hnone,
        fun hslash => hplain (List.forall_mem_cons.mp hslash).2⟩
    unfold walkWith at h
    split at h
    · next entries hhere =>
      split at h
      · exact hshorter (ih here h)
      next hdot =>
      split at h
      · exact hshorter (ih here.dropLast h)
      next hup =>
      split at h
      · cases h
      split at h
      · cases h
      split at h
      · next hnone =>
        split_ifs at h
        obtain rfl : here ++ [name] = place := by simpa using h
        refine ⟨here, name, entries, rfl, hhere, hnone, fun hslash => ⟨⟨?_, ?_⟩, hup⟩⟩
        · simpa [Path.isSolid] using hdot
        · exact hslash name List.mem_cons_self
      · next target _ =>
        split at h
        · simp at h
        · obtain ⟨parent, last, entries', hplace, hdir, hnone, hplain⟩ := hexpand _ _ place h
          refine ⟨parent, last, entries', hplace, hdir, hnone, fun hslash => hplain ?_⟩
          exact List.forall_mem_append.mpr ⟨not_mem_of_mem_targetParts target,
            (List.forall_mem_cons.mp hslash).2⟩
      · exact hshorter (ih (here ++ [name]) h)
    · cases h
    · cases h

lemma walk_missing (links : Nat) (here names place : List String)
    (h : walk tree wanted links here names = .ok ⟨place, none⟩) :
    Missing tree place (∀ name ∈ names, '/' ∉ name.toList) := by
  induction links generalizing here names place with
  | zero => cases h
  | succ links ih => exact walkWith_missing tree wanted _ ih here names place h

end Missing

/-- A path to a file, or to where one can be created, leads to this place. -/
def FilePlace (disk : Disk) (p : Path) (place : List String) : Prop :=
  ∃ node, disk.locate .file p = .ok ⟨place, node⟩ ∧
    ∀ found, node = some found → ∃ content, found = .file content

lemma filePlace_unique {disk : Disk} {p : Path} {place other : List String}
    (h : FilePlace disk p place) (hother : FilePlace disk p other) : place = other := by
  obtain ⟨node, hlocate, _⟩ := h
  obtain ⟨node', hlocate', _⟩ := hother
  have hsame := hlocate.symm.trans hlocate'
  simp only [Except.ok.injEq, Spot.mk.injEq] at hsame
  exact hsame.1

lemma fileable_of_filePlace (disk : Disk) (p : Path) (place : List String) (hp : p.parts ≠ [])
    (h : FilePlace disk p place) : Fileable disk.tree place := by
  obtain ⟨node, hlocate, hnode⟩ := h
  obtain ⟨_, hwalk⟩ := (locate_eq_ok_iff disk .file p _).mp hlocate
  cases node with
  | none =>
    obtain ⟨parent, name, entries, hplace, hdir, hnone, _⟩ := walk_missing _ _ _ _ _ _ hwalk
    exact ⟨parent, name, entries, hplace, hdir, by simp [hnone]⟩
  | some node =>
    obtain ⟨content, rfl⟩ := hnode node rfl
    have hget := walk_get? _ _ _ _ _ _ _ hwalk
    rcases List.eq_nil_or_concat' place with rfl | ⟨parent, name, rfl⟩
    · -- a tree that is one file has no directory to walk through
      obtain ⟨name, rest, hparts⟩ := List.exists_cons_of_ne_nil hp
      have htree : disk.tree = .file content := by simpa [Node.get?] using hget
      rw [htree, hparts] at hwalk
      cases hstart : startOf disk p <;>
        simp [hstart, walk, walkWith, Node.get?, Node.child?] at hwalk
    · obtain ⟨entries, child, hdir, hchild, hnil⟩ :=
        get?_append_cons disk.tree _ parent [] name hget
      obtain rfl : child = .file content := by simpa [Node.get?] using hnil
      exact ⟨parent, name, entries, rfl, hdir, by simp [hchild]⟩

/-- The bytes at a place; none where no file stands. -/
def bytesAt (tree : Node) (place : List String) : ByteArray :=
  match tree.get? place with
  | some (.file content) => content
  | _ => ByteArray.empty

lemma get?_of_missing {tree : Node} {place : List String} {plain : Prop}
    (h : Missing tree place plain) : tree.get? place = none := by
  obtain ⟨parent, name, entries, rfl, hdir, hnone, _⟩ := h
  rw [← lookup_eq_get? hdir, hnone]

lemma append_of_filePlace (disk : Disk) (p : Path) (place : List String) (bytes : ByteArray)
    (h : FilePlace disk p place) :
    disk.append p bytes = .ok { disk with
      tree := disk.tree.set place (.file (bytesAt disk.tree place ++ bytes)) } := by
  obtain ⟨node, hlocate, hnode⟩ := h
  obtain ⟨_, hwalk⟩ := (locate_eq_ok_iff disk .file p _).mp hlocate
  unfold Disk.append Disk.updateFile
  rw [hlocate]
  cases node with
  | none =>
    have hget := get?_of_missing (walk_missing _ _ _ _ _ _ hwalk)
    simp [bytesAt, hget]
  | some node =>
    obtain ⟨content, rfl⟩ := hnode node rfl
    have hget := walk_get? _ _ _ _ _ _ _ hwalk
    simp [bytesAt, hget]

lemma filePlace_of_append (disk after : Disk) (p : Path) (bytes : ByteArray)
    (h : disk.append p bytes = .ok after) : ∃ place, FilePlace disk p place := by
  unfold Disk.append Disk.updateFile at h
  split at h
  · cases h
  · next place content hlocate => exact ⟨place, _, hlocate, by simp⟩
  · cases h
  · next place hlocate => exact ⟨place, _, hlocate, by simp⟩

/-- Something was written behind the end of a file. -/
def AppendsTo (p : Path) (disk after : Disk) : Prop :=
  ∃ bytes, disk.append p bytes = .ok after

lemma bytesAt_set_self (tree : Node) (place : List String) (content : ByteArray)
    (h : Fileable tree place) : bytesAt (tree.set place (.file content)) place = content := by
  simp [bytesAt, (get?_set_file tree place place content h).1 rfl]

lemma bytesAt_set_of_ne (tree : Node) (place other : List String) (content : ByteArray)
    (h : Fileable tree place) (hne : other ≠ place) :
    bytesAt (tree.set place (.file content)) other = bytesAt tree other := by
  unfold bytesAt
  rcases (get?_set_file tree place other content h).2 hne with hsame | ⟨⟨_, hdir⟩, _, hdir'⟩
  · rw [hsame]
  · rw [hdir, hdir']

section Appends

variable {disk after : Disk} {p : Path} (hp : p.parts ≠ []) (h : AppendsTo p disk after)

include hp h

/-- What an append does to the disk. -/
lemma exists_of_appendsTo : ∃ place bytes, FilePlace disk p place ∧ Fileable disk.tree place ∧
    after = { disk with
      tree := disk.tree.set place (.file (bytesAt disk.tree place ++ bytes)) } := by
  obtain ⟨bytes, happend⟩ := h
  obtain ⟨place, hplace⟩ := filePlace_of_append disk after p bytes happend
  have hafter := Except.ok.inj ((append_of_filePlace disk p place bytes hplace).symm.trans happend)
  exact ⟨place, bytes, hplace, fileable_of_filePlace disk p place hp hplace, hafter.symm⟩

lemma cwd_appendsTo : after.cwd = disk.cwd := by
  obtain ⟨place, bytes, _, _, rfl⟩ := exists_of_appendsTo hp h
  rfl

lemma grown_appendsTo : Grown disk.tree after.tree := by
  obtain ⟨place, bytes, _, hfileable, rfl⟩ := exists_of_appendsTo hp h
  exact grown_set disk.tree place _ hfileable

lemma startOf_appendsTo (q : Path) : startOf after q = startOf disk q := by
  unfold startOf
  rw [cwd_appendsTo hp h]

/-- A path that leads to a file still leads there. -/
lemma filePlace_appendsTo {q : Path} {place : List String} (hq : q.parts ≠ [])
    (hplace : FilePlace disk q place) : FilePlace after q place := by
  have hgrown := grown_appendsTo hp h
  have hold := get?_of_fileable (fileable_of_filePlace disk q place hq hplace)
  obtain ⟨node, hlocate, _⟩ := hplace
  obtain ⟨haskable, hwalk⟩ := (locate_eq_ok_iff disk .file q _).mp hlocate
  obtain ⟨found, hfound⟩ := (walk_follows hgrown .file _ _ _).place _ hwalk
  rw [← startOf_appendsTo hp h] at hfound
  refine ⟨found, (locate_eq_ok_iff after .file q _).mpr ⟨haskable, hfound⟩, ?_⟩
  rintro node rfl
  have hget := walk_get? _ _ _ _ _ _ _ hfound
  cases node with
  | file content => exact ⟨content, rfl⟩
  | link target =>
    have hlink := (hgrown.link place target).mpr hget
    rcases hold with hnone | ⟨content, hfile⟩ <;> simp_all
  | dir entries =>
    obtain ⟨entries', hdir⟩ := (hgrown.dir place).mpr ⟨entries, hget⟩
    rcases hold with hnone | ⟨content, hfile⟩ <;> simp_all

/-- A path that leads to a link has led there before. -/
lemma nodeAt_link_appendsTo (q : Path) (target : String)
    (hlink : after.nodeAt .entry q = .ok (.link target)) :
    disk.nodeAt .entry q = .ok (.link target) := by
  obtain ⟨place, hlocate⟩ := (nodeAt_eq_ok_iff after .entry q _).mp hlink
  obtain ⟨haskable, hwalk⟩ := (locate_eq_ok_iff after .entry q _).mp hlocate
  rw [startOf_appendsTo hp h] at hwalk
  have hbefore := (walk_follows (grown_appendsTo hp h) .entry _ _ _).link place target hwalk
  exact (nodeAt_eq_ok_iff disk .entry q _).mpr
    ⟨place, (locate_eq_ok_iff disk .entry q _).mpr ⟨haskable, hbefore⟩⟩

/-- The bytes of other files stay as they are. -/
lemma bytesAt_appendsTo_of_ne {place other : List String} (hplace : FilePlace disk p place)
    (hne : other ≠ place) : bytesAt after.tree other = bytesAt disk.tree other := by
  obtain ⟨found, bytes, hfound, hfileable, rfl⟩ := exists_of_appendsTo hp h
  obtain rfl := filePlace_unique hfound hplace
  exact bytesAt_set_of_ne disk.tree found other _ hfileable hne

end Appends

lemma bytesAt_append (disk after : Disk) (p : Path) (place : List String) (bytes : ByteArray)
    (hp : p.parts ≠ []) (hplace : FilePlace disk p place) (h : disk.append p bytes = .ok after) :
    bytesAt after.tree place = bytesAt disk.tree place ++ bytes := by
  have hafter := Except.ok.inj ((append_of_filePlace disk p place bytes hplace).symm.trans h)
  rw [← hafter]
  exact bytesAt_set_self disk.tree place _ (fileable_of_filePlace disk p place hp hplace)

/-! ### Reading a file -/

lemma walkWith_target (tree : Node)
    (expand expand' : List String → List String → Except OsError Spot)
    (hexpand : ∀ here names spot, expand here names = .ok spot → expand' here names = .ok spot)
    (here names : List String) (spot : Spot)
    (h : walkWith tree .file expand here names = .ok spot) :
    walkWith tree .target expand' here names = .ok spot := by
  induction names generalizing here with
  | nil => exact h
  | cons name rest ih =>
    unfold walkWith at h ⊢
    split at h
    · split at h
      · next hdot =>
        rw [if_pos hdot]
        exact ih here h
      next hdot =>
      rw [if_neg hdot]
      split at h
      · next hup =>
        rw [if_pos hup]
        exact ih here.dropLast h
      next hup =>
      rw [if_neg hup, if_neg (by simp)]
      split at h
      · cases h
      split at h
      · cases h
      next hlong =>
      rw [if_neg hlong]
      split at h
      · exact h
      · rw [if_neg (by simp)] at h ⊢
        exact hexpand _ _ spot h
      · exact ih (here ++ [name]) h
    · cases h
    · cases h

lemma walk_target (tree : Node) (links : Nat) (here names : List String) (spot : Spot)
    (h : walk tree .file links here names = .ok spot) :
    walk tree .target links here names = .ok spot := by
  induction links generalizing here names spot with
  | zero => cases h
  | succ links ih => exact walkWith_target tree _ _ ih here names spot h

/-- The bytes of the file at a path; none where there is no file. -/
def fileBytes (disk : Disk) (p : Path) : ByteArray :=
  match disk.readBytes p with
  | .ok content => content
  | .error _ => ByteArray.empty

lemma fileBytes_of_filePlace (disk : Disk) (p : Path) (place : List String)
    (h : FilePlace disk p place) : fileBytes disk p = bytesAt disk.tree place := by
  obtain ⟨node, hlocate, hnode⟩ := h
  obtain ⟨haskable, hwalk⟩ := (locate_eq_ok_iff disk .file p _).mp hlocate
  have htarget := (locate_eq_ok_iff disk .target p _).mpr
    ⟨haskable, walk_target _ _ _ _ _ hwalk⟩
  unfold fileBytes Disk.readBytes Disk.nodeAt
  rw [htarget]
  cases node with
  | none =>
    have hget := get?_of_missing (walk_missing _ _ _ _ _ _ hwalk)
    simp [bytesAt, hget]
  | some node =>
    obtain ⟨content, rfl⟩ := hnode node rfl
    have hget := walk_get? _ _ _ _ _ _ _ hwalk
    simp [bytesAt, hget]

end StoryAtlas.Proofs
