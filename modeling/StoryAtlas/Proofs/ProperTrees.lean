import StoryAtlas.Proofs.Confinement
import StoryAtlas.Proofs.FileAppends

/-!
# Trees with proper names

In the tree of a file system the name of an entry is neither empty nor one of the two dots, it has
no slash, and no two entries of a directory have one name. A write to a file keeps this. A search
for files in such a tree names files that stand where the search says.
-/

namespace StoryAtlas.Proofs
open StoryAtlas.Disk

/-- In every directory of the tree the names are plain and told apart. -/
inductive Proper : Node → Prop
  | file (content : ByteArray) : Proper (.file content)
  | link (target : String) : Proper (.link target)
  | dir (entries : List (String × Node)) (hplain : ∀ entry ∈ entries, IsPlain entry.1)
      (hnodup : (entries.map Prod.fst).Nodup) (hbelow : ∀ entry ∈ entries, Proper entry.2) :
      Proper (.dir entries)

attribute [simp] Proper.file Proper.link

@[simp] lemma proper_emptyDir : Proper (.dir []) :=
  .dir [] (by simp) (by simp) (by simp)

lemma lookup_of_mem {name : String} {node : Node} {entries : Entries}
    (hnodup : (entries.map Prod.fst).Nodup) (h : (name, node) ∈ entries) :
    entries.lookup name = some node := by
  induction entries with
  | nil => cases h
  | cons entry rest ih =>
    obtain ⟨key, found⟩ := entry
    obtain ⟨hkey, hrest⟩ := List.nodup_cons.mp hnodup
    rw [lookup_cons_eq_ite]
    rcases List.mem_cons.mp h with heq | hmem
    · obtain ⟨rfl, rfl⟩ := Prod.mk.inj heq
      exact if_pos rfl
    · rw [if_neg, ih hrest hmem]
      rintro rfl
      exact hkey (List.mem_map.mpr ⟨_, hmem, rfl⟩)

lemma proper_get? (tree node : Node) (place : List String) (htree : Proper tree)
    (h : tree.get? place = some node) : Proper node ∧ ∀ name ∈ place, IsPlain name := by
  induction place generalizing tree with
  | nil =>
    obtain rfl : tree = node := by simpa [Node.get?] using h
    exact ⟨htree, by simp⟩
  | cons name rest ih =>
    cases htree with
    | file content => cases h
    | link target => cases h
    | dir entries hplain hnodup hbelow =>
      obtain ⟨_, child, htop, hchild, hget⟩ := get?_append_cons (.dir entries) node [] rest name h
      obtain rfl := Node.dir.inj (Option.some.inj htop)
      have hmem := mem_of_lookup_eq_some name child entries hchild
      obtain ⟨hnode, hrest⟩ := ih child (hbelow _ hmem) hget
      exact ⟨hnode, List.forall_mem_cons.mpr ⟨hplain _ hmem, hrest⟩⟩

/-! ### Writing -/

section Alter

variable (name : String) (change : Option Node → Option Node) (entries : Entries)

lemma mem_alter (entry : String × Node) (h : entry ∈ Entries.alter name change entries) :
    entry ∈ entries ∨ entry.1 = name ∧ change (entries.lookup name) = some entry.2 := by
  induction entries with
  | nil =>
    unfold Entries.alter at h
    split at h
    · cases h
    · next node hnode =>
      obtain rfl := List.mem_singleton.mp h
      exact Or.inr ⟨rfl, hnode⟩
  | cons first rest ih =>
    obtain ⟨key, node⟩ := first
    unfold Entries.alter at h
    by_cases hkey : key = name
    · subst hkey
      rw [if_pos rfl] at h
      rw [lookup_cons_eq_ite, if_pos rfl]
      split at h
      · exact Or.inl (List.mem_cons_of_mem _ h)
      · next new hnew =>
        rcases List.mem_cons.mp h with rfl | hmem
        · exact Or.inr ⟨rfl, hnew⟩
        · exact Or.inl (List.mem_cons_of_mem _ hmem)
    · rw [if_neg hkey] at h
      rw [lookup_cons_eq_ite, if_neg (Ne.symm hkey)]
      rcases List.mem_cons.mp h with rfl | hmem
      · exact Or.inl List.mem_cons_self
      · exact (ih hmem).imp_left (List.mem_cons_of_mem _)

lemma nodup_alter (hnodup : (entries.map Prod.fst).Nodup) :
    ((Entries.alter name change entries).map Prod.fst).Nodup := by
  induction entries with
  | nil =>
    unfold Entries.alter
    split <;> simp
  | cons first rest ih =>
    obtain ⟨key, node⟩ := first
    obtain ⟨hkey, hrest⟩ := List.nodup_cons.mp hnodup
    unfold Entries.alter
    by_cases hsame : key = name
    · rw [if_pos hsame]
      split
      · exact hrest
      · exact List.nodup_cons.mpr ⟨hkey, hrest⟩
    · rw [if_neg hsame]
      refine List.nodup_cons.mpr ⟨?_, ih hrest⟩
      intro hmem
      obtain ⟨entry, hentry, hfst⟩ := List.mem_map.mp hmem
      rcases mem_alter name change rest entry hentry with hold | ⟨hnew, _⟩
      · exact hkey (List.mem_map.mpr ⟨entry, hold, hfst⟩)
      · exact hsame (hfst.symm.trans hnew)

lemma proper_alter (hname : IsPlain name) (hentries : Proper (.dir entries))
    (hchange : ∀ node, change (entries.lookup name) = some node → Proper node) :
    Proper (.dir (Entries.alter name change entries)) := by
  cases hentries with
  | dir _ hplain hnodup hbelow =>
    refine .dir _ ?_ (nodup_alter name change entries hnodup) ?_
    · intro entry hentry
      rcases mem_alter name change entries entry hentry with hold | ⟨hnew, _⟩
      · exact hplain entry hold
      · rwa [hnew]
    · intro entry hentry
      rcases mem_alter name change entries entry hentry with hold | ⟨_, hnew⟩
      · exact hbelow entry hold
      · exact hchange entry.2 hnew

end Alter

lemma proper_set (tree : Node) (place : List String) (new : Node) (htree : Proper tree)
    (hplace : ∀ name ∈ place, IsPlain name) (hnew : Proper new) : Proper (tree.set place new) := by
  induction place generalizing tree with
  | nil =>
    cases tree <;> exact htree
  | cons name rest ih =>
    obtain ⟨hname, hrest⟩ := List.forall_mem_cons.mp hplace
    cases tree with
    | file content => cases rest <;> exact htree
    | link target => cases rest <;> exact htree
    | dir entries =>
      by_cases hlast : rest = []
      · subst hlast
        refine proper_alter name _ entries hname htree fun node hnode => ?_
        obtain rfl := Option.some.inj hnode
        exact hnew
      · rw [set_cons entries name rest new hlast]
        refine proper_alter name _ entries hname htree fun node hnode => ?_
        obtain ⟨child, hchild, rfl⟩ := Option.map_eq_some_iff.mp hnode
        have hget : (Node.dir entries).get? [name] = some child := by
          simp [Node.get?, Node.child?, hchild]
        exact ih child (proper_get? _ child [name] htree hget).1 hrest

/-- A write to a file keeps the names proper, also where it creates the file. -/
lemma proper_appendsTo {disk after : Disk} {p : Path} (hp : p.parts ≠ []) (hspelled : Spelled p)
    (h : AppendsTo p disk after) (htree : Proper disk.tree) : Proper after.tree := by
  obtain ⟨place, bytes, hplace, _, rfl⟩ := exists_of_appendsTo hp h
  refine proper_set disk.tree place _ htree ?_ (.file _)
  obtain ⟨node, hlocate, _⟩ := hplace
  obtain ⟨_, hwalk⟩ := (locate_eq_ok_iff disk .file p _).mp hlocate
  cases node with
  | some node => exact (proper_get? _ node place htree (walk_get? _ _ _ _ _ _ _ hwalk)).2
  | none =>
    obtain ⟨parent, name, entries, rfl, hdir, _, hname⟩ := walk_missing _ _ _ _ _ _ hwalk
    refine List.forall_mem_append.mpr ⟨(proper_get? _ _ parent htree hdir).2, ?_⟩
    simpa using hname fun part hpart => (hspelled part hpart).2

/-! ### Searching -/

lemma get?_dir_cons (entries : Entries) (name : String) (rest : List String) :
    (Node.dir entries).get? (name :: rest) = (entries.lookup name).bind fun node => node.get? rest := by
  cases hchild : entries.lookup name <;> simp [Node.get?, Node.child?, hchild]

lemma forall_prefix_cons_iff (name : String) (rest : List String) (P : List String → Prop) :
    (∀ dir, dir <+: name :: rest → dir ≠ name :: rest → P dir) ↔
      P [] ∧ ∀ dir, dir <+: rest → dir ≠ rest → P (name :: dir) := by
  constructor
  · intro h
    refine ⟨h [] (List.nil_prefix) (by simp), fun dir hdir hne => ?_⟩
    exact h (name :: dir) (List.cons_prefix_cons.mpr ⟨rfl, hdir⟩) (by simpa using hne)
  · rintro ⟨hnil, hcons⟩ dir hdir hne
    cases dir with
    | nil => exact hnil
    | cons first dir =>
      obtain ⟨rfl, hrest⟩ := List.cons_prefix_cons.mp hdir
      exact hcons dir hrest (by simpa using hne)

/-- The files below a node are those that stand in its tree, where every directory on the way down
is entered. -/
lemma mem_filesBelow_iff {node : Node} (hnode : Proper node) (opens : List String → Bool)
    (here file : List String) : file ∈ Node.filesBelow opens here node ↔
      ∃ rest, file = here ++ rest ∧ (∃ content, node.get? rest = some (.file content)) ∧
        ∀ dir, dir <+: rest → dir ≠ rest → opens (here ++ dir) = true := by
  induction hnode generalizing here file with
  | file content =>
    rw [Node.filesBelow, List.mem_singleton]
    constructor
    · rintro rfl
      exact ⟨[], by simp, ⟨content, rfl⟩, by simp⟩
    · rintro ⟨rest, rfl, ⟨_, hget⟩, _⟩
      cases rest with
      | nil => simp
      | cons name rest => cases hget
  | link target =>
    rw [Node.filesBelow]
    constructor
    · intro h
      cases h
    · rintro ⟨rest, _, ⟨_, hget⟩, _⟩
      cases rest <;> cases hget
  | dir entries hplain hnodup hbelow ih =>
    rw [Node.filesBelow]
    constructor
    · intro h
      split_ifs at h with hopen
      · rw [filesAmong_eq_flatMap] at h
        obtain ⟨⟨name, child⟩, hentry, hfile⟩ := List.mem_flatMap.mp h
        obtain ⟨rest, rfl, ⟨content, hget⟩, hdirs⟩ := (ih _ hentry _ _).mp hfile
        refine ⟨name :: rest, by simp, ⟨content, ?_⟩, ?_⟩
        · rw [get?_dir_cons, lookup_of_mem hnodup hentry]
          exact hget
        · rw [forall_prefix_cons_iff]
          exact ⟨by simpa using hopen, by simpa using hdirs⟩
      · cases h
    · rintro ⟨rest, rfl, ⟨content, hget⟩, hdirs⟩
      cases rest with
      | nil => cases hget
      | cons name rest =>
        obtain ⟨hopen, hrest⟩ := (forall_prefix_cons_iff _ _ _).mp hdirs
        rw [get?_dir_cons] at hget
        obtain ⟨child, hchild, hget⟩ := Option.bind_eq_some_iff.mp hget
        have hentry := mem_of_lookup_eq_some name child entries hchild
        rw [if_pos (by simpa using hopen), filesAmong_eq_flatMap, List.mem_flatMap]
        refine ⟨(name, child), hentry, (ih _ hentry _ _).mpr ⟨rest, by simp, ⟨content, hget⟩, ?_⟩⟩
        simpa using hrest

/-- The files that a search looks at stand in the tree below its root, each at the end of
directories that are entered. -/
lemma mem_filesIn_iff {disk : Disk} (htree : Proper disk.tree) (pruned : List String) (root : Path)
    (below : List String) : below ∈ filesIn disk pruned root ↔
      (∃ entries content, disk.nodeAt .target root = .ok (.dir entries) ∧
        (Node.dir entries).get? below = some (.file content)) ∧
      ∀ dir, dir <+: below → dir ≠ below → entersDir root pruned dir = true := by
  constructor
  · intro h
    unfold filesIn at h
    split at h
    · next entries hdir =>
      obtain ⟨place, hplace⟩ := nodeAt_get? disk .target root _ hdir
      obtain ⟨rest, rfl, ⟨content, hget⟩, hdirs⟩ :=
        (mem_filesBelow_iff (proper_get? _ _ _ htree hplace).1 _ _ _).mp h
      exact ⟨⟨entries, content, hdir, hget⟩, by simpa using hdirs⟩
    · cases h
  · rintro ⟨⟨entries, content, hdir, hget⟩, hdirs⟩
    obtain ⟨place, hplace⟩ := nodeAt_get? disk .target root _ hdir
    unfold filesIn
    rw [hdir]
    exact (mem_filesBelow_iff (proper_get? _ _ _ htree hplace).1 _ _ _).mpr
      ⟨below, rfl, ⟨content, hget⟩, by simpa using hdirs⟩

lemma get?_of_realDir (disk : Disk) (root : Path) (wanted : Wanted) (node : Node)
    (hroot : IsRealDir disk root) (h : disk.nodeAt wanted root = .ok node) :
    disk.tree.get? root.parts = some node := by
  have hfree := linkFree_realDir root hroot
  obtain ⟨anchor, parts⟩ := root
  obtain ⟨rfl, hplain, hdir⟩ := hroot
  obtain ⟨place, hlocate⟩ := (nodeAt_eq_ok_iff disk wanted _ node).mp h
  have htree := get?_take_dir disk.tree parts 0 hdir
  obtain ⟨rfl, _⟩ := locate_straight disk wanted parts _ htree hplain
    (fun above habove _ => hfree above habove) hlocate
  obtain ⟨_, hwalk⟩ := (locate_eq_ok_iff disk wanted _ _).mp hlocate
  exact walk_get? _ _ _ _ _ _ _ hwalk

/-- A search from a real directory finds paths to files that stand in the tree below it. -/
lemma discover_get? (disk : Disk) (filter : FileFilter) (root p : Path) (found : Discovery)
    (htree : Proper disk.tree) (hroot : IsRealDir disk root)
    (h : discover disk filter root = .ok found) (hp : p ∈ found.paths) :
    p.anchor = .root ∧ root.parts <+: p.parts ∧
      ∃ content, disk.tree.get? p.parts = some (.file content) := by
  obtain ⟨root', hresolve, below, hbelow, _, rfl⟩ := exists_of_mem_discover h hp
  obtain rfl := resolve_realDir root root' hroot hresolve
  obtain ⟨⟨entries, content, hnode, hget⟩, _⟩ := (mem_filesIn_iff htree _ _ _).mp hbelow
  have hdir := get?_of_realDir disk root' .target _ hroot hnode
  have hplain := (proper_get? _ _ _ (proper_get? _ _ _ htree hdir).1 hget).2
  have hcanonical : IsCanonical (root'.descend below) := by
    refine ⟨by simp [Path.descend, hroot.anchored], List.forall_mem_append.mpr ⟨?_, ?_⟩⟩
    · exact fun part hpart => (hroot.plain part hpart).2
    · exact fun part hpart => (hplain part hpart).2
  rw [canonical_of_isCanonical disk.cwd _ hcanonical]
  refine ⟨hroot.anchored, List.prefix_append _ _, content, ?_⟩
  unfold Path.descend
  rw [get?_append, hdir]
  exact hget

end StoryAtlas.Proofs
