import StoryAtlas.Proofs.LoopFreeDisks

/-!
# Links that can be ranked

If names can be ranked so that a link leads only over names of lower rank than its own, then no
links run in a circle: a link that is still being resolved has a higher rank than any link that is
met meanwhile. If the stack has room for the highest rank, no links are too deep within each other.
-/

namespace StoryAtlas.Proofs
open StoryAtlas.Disk

/-- The target of each link in the tree has names of lower rank than the link itself. -/
inductive Ranked (rank : String → Nat) : Node → Prop
  | file (content : ByteArray) : Ranked rank (.file content)
  | link (target : String) : Ranked rank (.link target)
  | dir (entries : List (String × Node))
      (hlower : ∀ name target, (name, .link target) ∈ entries →
        ∀ part ∈ targetParts target, rank part < rank name)
      (hbelow : ∀ entry ∈ entries, Ranked rank entry.2) : Ranked rank (.dir entries)

lemma ranked_get? (rank : String → Nat) (tree node : Node) (place : List String)
    (htree : Ranked rank tree) (h : tree.get? place = some node) : Ranked rank node := by
  induction place generalizing tree with
  | nil =>
    obtain rfl : tree = node := by simpa [Node.get?] using h
    exact htree
  | cons name rest ih =>
    cases htree with
    | file content => cases h
    | link target => cases h
    | dir entries hlower hbelow =>
      obtain ⟨_, child, htop, hchild, hget⟩ := get?_append_cons (.dir entries) node [] rest name h
      obtain rfl := Node.dir.inj (Option.some.inj htop)
      exact ih child (hbelow _ (mem_of_lookup_eq_some name child entries hchild)) hget

/-! ### The name at the end of a walk -/

/-- The name stands for an entry as a walk reads it. -/
def IsEntry (name : String) : Prop :=
  ¬(name = "" ∨ name = ".") ∧ name ≠ ".."

lemma walkWith_last (tree : Node) (expand : List String → List String → Except OsError Spot)
    (name : String) (hname : IsEntry name)
    (hexpand : ∀ here names spot, expand here (names ++ [name]) = .ok spot →
      ∃ above, spot.place = above ++ [name])
    (here names : List String) (spot : Spot)
    (h : walkWith tree .entry expand here (names ++ [name]) = .ok spot) :
    ∃ above, spot.place = above ++ [name] := by
  induction names generalizing here with
  | nil =>
    rw [List.nil_append] at h
    unfold walkWith at h
    split at h
    · next entries hdir =>
      rw [if_neg hname.1, if_neg hname.2, if_neg (by simp)] at h
      split at h
      · cases h
      split at h
      · obtain rfl := Except.ok.inj h
        exact ⟨here, rfl⟩
      · obtain rfl := Except.ok.inj h
        exact ⟨here, rfl⟩
      · unfold walkWith at h
        split at h
        · obtain rfl := Except.ok.inj h
          exact ⟨here, rfl⟩
        · cases h
    · cases h
    · cases h
  | cons first names ih =>
    rw [List.cons_append] at h
    unfold walkWith at h
    split at h
    · split at h
      · exact ih here h
      split at h
      · exact ih here.dropLast h
      split at h
      · cases h
      split at h
      · cases h
      split at h
      · split at h
        · next hend => simp at hend
        · cases h
      · next target _ =>
        rw [if_neg (by simp), ← List.append_assoc] at h
        exact hexpand _ _ spot h
      · exact ih (here ++ [first]) h
    · cases h
    · cases h

lemma walk_last (tree : Node) (name : String) (hname : IsEntry name) (links : Nat)
    (here names : List String) (spot : Spot)
    (h : walk tree .entry links here (names ++ [name]) = .ok spot) :
    ∃ above, spot.place = above ++ [name] := by
  induction links generalizing here names spot with
  | zero => cases h
  | succ links ih => exact walkWith_last tree _ name hname ih here names spot h

/-- A link that a lookup shows has a higher rank than the names in its target. -/
lemma rank_lt_of_nodeAt {rank : String → Nat} {disk : Disk} (htree : Ranked rank disk.tree)
    {p : Path} {name target : String} (hname : IsEntry name)
    (h : disk.nodeAt .entry (p.child name) = .ok (.link target)) :
    ∀ part ∈ targetParts target, rank part < rank name := by
  obtain ⟨place, hwalk⟩ := walk_of_nodeAt disk .entry _ _ h
  have hget := walk_get? _ _ _ _ _ _ _ hwalk
  obtain ⟨above, habove⟩ := walk_last disk.tree name hname _ _ p.parts _ hwalk
  obtain rfl : place = above ++ [name] := habove
  obtain ⟨entries, child, hdir, hchild, hlink⟩ := get?_append_cons _ _ above [] name hget
  obtain rfl : child = .link target := by simpa [Node.get?] using hlink
  cases ranked_get? rank _ _ above htree hdir with
  | dir _ hlower _ => exact hlower name target (mem_of_lookup_eq_some _ _ _ hchild)

/-! ### Resolving by rank -/

/-- A target has at least one name, so that a link over names of lower rank has a positive rank. -/
lemma exists_mem_targetParts (target : String) : ∃ part, part ∈ targetParts target := by
  apply List.exists_mem_of_ne_nil
  simpa [targetParts, Text.splitText] using Text.split_ne_nil '/' target.toList

/-- No link with a name up to the rank is still being resolved. -/
def Closed (rank : String → Nat) (bound : Nat) (seen : Seen) : Prop :=
  ∀ p name, rank name ≤ bound → seen.lookup (Path.child p name) ≠ some none

/-- The links with names above the rank are as they were. -/
def SameAbove (rank : String → Nat) (bound : Nat) (seen met : Seen) : Prop :=
  ∀ p name, bound < rank name →
    met.lookup (Path.child p name) = seen.lookup (Path.child p name)

/-- The resolution is full, and of the links met so far only those up to the rank have changed. -/
def EndsFull (rank : String → Nat) (bound : Nat) (seen : Seen) (found : Resolution) : Prop :=
  ∃ path met, found = .full path met ∧ Closed rank bound met ∧ SameAbove rank bound seen met

lemma lookup_seen_cons (link p : Path) (target : Option Path) (seen : Seen) :
    ((link, target) :: seen : Seen).lookup p = if p = link then some target else seen.lookup p := by
  by_cases hp : p = link
  · simp [hp]
  · have hbeq : (p == link) = false := beq_eq_false_iff_ne.mpr hp
    rw [List.lookup_cons, hbeq, if_neg hp]

lemma child_inj {p q : Path} {name other : String} (h : p.child name = q.child other) :
    name = other := by
  have hlast := congrArg (fun path => path.parts.getLast?) h
  simpa [Path.child] using hlast

section Resolving

variable {rank : String → Nat} {disk : Disk}

lemma resolveWith_ranked (htree : Ranked rank disk.tree)
    (expand : Seen → Path → List String → Except Fault Resolution) (bound : Nat)
    (hexpand : ∀ lower < bound, ∀ seen here names found, (∀ name ∈ names, rank name ≤ lower) →
      Closed rank lower seen → expand seen here names = .ok found →
        EndsFull rank lower seen found)
    (seen : Seen) (here : Path) (names : List String) (found : Resolution)
    (hnames : ∀ name ∈ names, rank name ≤ bound) (hseen : Closed rank bound seen)
    (h : resolveWith disk expand seen here names = .ok found) : EndsFull rank bound seen found := by
  induction names generalizing seen here with
  | nil =>
    obtain rfl : .full here seen = found := by simpa [resolveWith] using h
    exact ⟨here, seen, rfl, hseen, fun _ _ _ => rfl⟩
  | cons name rest ih =>
    obtain ⟨hname, hrest⟩ := List.forall_mem_cons.mp hnames
    unfold resolveWith at h
    split_ifs at h with hdot hup
    · exact ih seen here hrest hseen h
    · exact ih seen (up here) hrest hseen h
    dsimp only at h
    split at h
    · cases h
    · next target hlink =>
      have hlower := rank_lt_of_nodeAt htree ⟨hdot, hup⟩ hlink
      split at h
      · exact ih seen _ hrest hseen h
      · next hopen => exact absurd hopen (hseen here name hname)
      · obtain ⟨part, hpart⟩ := exists_mem_targetParts target
        have hpositive := hlower part hpart
        have hopen : Closed rank (rank name - 1) ((here.child name, none) :: seen) := by
          intro p other hother
          rw [lookup_seen_cons, if_neg]
          · exact hseen p other (by omega)
          · intro heq
            rw [child_inj heq] at hother
            omega
        have hinner := fun inner => hexpand (rank name - 1) (by omega) _
          (if Anchor.ofChars target.toList = .relative then here else ⟨.root, []⟩) _ inner
          (fun part hpart => by have := hlower part hpart; omega) hopen
        split at h
        · cases h
        · next path hpath =>
          obtain ⟨_, _, hfull, _⟩ := hinner _ hpath
          cases hfull
        · next path met hpath =>
          obtain ⟨_, _, hfull, hclosed, hsame⟩ := hinner _ hpath
          obtain ⟨rfl, rfl⟩ := Resolution.full.inj hfull
          -- a link of this rank or a higher one was not touched, unless it is this one
          have hkept : ∀ (p : Path) other, rank name ≤ rank other → p.child other ≠ here.child name →
              met.lookup (p.child other) = seen.lookup (p.child other) := by
            intro p other hother hne
            rw [hsame p other (by omega), lookup_seen_cons, if_neg hne]
          have hclosed' : Closed rank bound ((here.child name, some path) :: met) := by
            intro p other hother
            rw [lookup_seen_cons]
            split_ifs with hthis
            · simp
            · by_cases hlow : rank other < rank name
              · exact hclosed p other (by omega)
              · rw [hkept p other (by omega) hthis]
                exact hseen p other hother
          obtain ⟨path', met', hfull', hended, hsame'⟩ := ih _ path hrest hclosed' h
          refine ⟨path', met', hfull', hended, ?_⟩
          intro p other hother
          have hthis : p.child other ≠ here.child name := by
            intro heq
            rw [child_inj heq] at hother
            omega
          rw [hsame' p other hother, lookup_seen_cons, if_neg hthis,
            hkept p other (by omega) hthis]
    · exact ih seen (here.child name) hrest hseen h

lemma resolveWithin_ranked (htree : Ranked rank disk.tree) (room bound : Nat) (seen : Seen)
    (here : Path) (names : List String) (found : Resolution)
    (hnames : ∀ name ∈ names, rank name ≤ bound) (hseen : Closed rank bound seen)
    (h : resolveWithin disk room seen here names = .ok found) :
    EndsFull rank bound seen found := by
  induction room generalizing bound seen here names found with
  | zero => cases h
  | succ room ih =>
    apply resolveWith_ranked htree _ bound _ seen here names found hnames hseen h
    intro lower _ seen here names found hnames hseen h
    exact ih lower seen here names found hnames hseen h

/-- A disk whose links are ranked, with no rank above some bound, has no circle of links. -/
theorem loopFree_of_ranked (htree : Ranked rank disk.tree) (bound : Nat)
    (hbound : ∀ name, rank name ≤ bound) : LoopFree disk := by
  intro p path h
  have hseen : Closed rank bound [] := by simp [Closed]
  obtain ⟨_, _, hfull, _⟩ := resolveWithin_ranked htree (disk.linkRoom + 1) bound [] _ p.parts _
    (fun name _ => hbound name) hseen h
  cases hfull

/-! ### Links within each other -/

lemma resolveWith_ne_linksTooDeep (htree : Ranked rank disk.tree)
    (expand : Seen → Path → List String → Except Fault Resolution) (bound : Nat)
    (hexpand : ∀ lower < bound, ∀ seen here names, (∀ name ∈ names, rank name ≤ lower) →
      expand seen here names ≠ .error .linksTooDeep)
    (seen : Seen) (here : Path) (names : List String)
    (hnames : ∀ name ∈ names, rank name ≤ bound) :
    resolveWith disk expand seen here names ≠ .error .linksTooDeep := by
  induction names generalizing seen here with
  | nil => simp [resolveWith]
  | cons name rest ih =>
    obtain ⟨hname, hrest⟩ := List.forall_mem_cons.mp hnames
    unfold resolveWith
    split_ifs with hdot hup
    · exact ih seen here hrest
    · exact ih seen (up here) hrest
    dsimp only
    split
    · simp
    · next target hlink =>
      have hlower := rank_lt_of_nodeAt htree ⟨hdot, hup⟩ hlink
      split
      · exact ih seen _ hrest
      · simp
      · obtain ⟨part, hpart⟩ := exists_mem_targetParts target
        have hpositive := hlower part hpart
        have hinner := fun seen here => hexpand (rank name - 1) (by omega) seen here _
          (fun part hpart => by have := hlower part hpart; omega)
        split
        · next fault hfault =>
          intro heq
          obtain rfl := Except.error.inj heq
          exact hinner _ _ hfault
        · simp
        · exact ih _ _ hrest
    · exact ih seen (here.child name) hrest

lemma resolveWithin_ne_linksTooDeep (htree : Ranked rank disk.tree) (room bound : Nat)
    (hbound : bound < room) (seen : Seen) (here : Path) (names : List String)
    (hnames : ∀ name ∈ names, rank name ≤ bound) :
    resolveWithin disk room seen here names ≠ .error .linksTooDeep := by
  induction room generalizing bound seen here names with
  | zero => omega
  | succ room ih =>
    apply resolveWith_ne_linksTooDeep htree _ bound _ seen here names hnames
    intro lower hlower seen here names hnames
    exact ih lower (by omega) seen here names hnames

/-- A disk whose links are ranked, with ranks for which the stack has room, has no links that are
too deep. -/
theorem not_linksTooDeep_of_ranked (htree : Ranked rank disk.tree)
    (hbound : ∀ name, rank name ≤ disk.linkRoom) (p : Path) : ¬LinksTooDeep disk p :=
  resolveWithin_ne_linksTooDeep htree (disk.linkRoom + 1) disk.linkRoom (by omega) [] _ p.parts
    fun name _ => hbound name

end Resolving

end StoryAtlas.Proofs
