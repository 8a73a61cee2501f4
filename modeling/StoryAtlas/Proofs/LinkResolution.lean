import StoryAtlas.Disk.Resolve
import StoryAtlas.Proofs.PathSpelling

/-!
# What resolving links keeps

Resolving takes the names of a path one after the other: it climbs, it goes on below a directory, or
it starts over from where a link leads. A property of paths that each of these moves keeps holds of
the path that comes out, and of the paths to which the links on the way lead.
-/

namespace StoryAtlas.Proofs
open StoryAtlas.Disk

lemma mem_of_lookup_eq_some {α β : Type} [BEq α] [LawfulBEq α] (a : α) (b : β)
    (entries : List (α × β)) (h : entries.lookup a = some b) : (a, b) ∈ entries := by
  obtain ⟨before, after, heq, _⟩ := List.lookup_eq_some_iff.mp h
  simp [heq]

lemma not_mem_of_mem_targetParts (target name : String) (h : name ∈ targetParts target) :
    '/' ∉ name.toList := by
  obtain ⟨piece, hpiece, rfl⟩ := List.mem_map.mp h
  rw [split_eq_splitOn] at hpiece
  simpa using not_mem_of_mem_splitOn '/' _ piece hpiece

/-- `P` is kept by every move along a path, and `C` holds of the paths on which a circle of links
leaves the rest of the way unresolved. -/
structure KeptByResolving (disk : Disk) (P C : Path → Prop) : Prop where
  root : P ⟨.root, []⟩
  climb : ∀ p, P p → P (up p)
  child : ∀ p name, P p → IsName name → name ≠ ".." →
    (∀ target, disk.nodeAt .entry (p.child name) ≠ .ok (.link target)) → P (p.child name)
  circle : ∀ p name rest, P p → IsName name → C (followedBy (p.child name) rest)
  rest : ∀ p rest, C p → C (followedBy p rest)

/-- The links met so far lead to paths with the property. -/
def SeenHolds (P : Path → Prop) (seen : Seen) : Prop :=
  ∀ link target, (link, some target) ∈ seen → P target

def ResolutionHolds (P C : Path → Prop) : Resolution → Prop
  | .full path seen => P path ∧ SeenHolds P seen
  | .circle path => C path

section Resolving

variable {disk : Disk} {P C : Path → Prop}

lemma seenHolds_cons (link : Path) (target : Option Path) (seen : Seen)
    (htarget : ∀ known, target = some known → P known) (hseen : SeenHolds P seen) :
    SeenHolds P ((link, target) :: seen) := by
  intro link' known hmem
  rcases List.mem_cons.mp hmem with heq | hmem
  · exact htarget known (Prod.mk.inj heq).2.symm
  · exact hseen link' known hmem

lemma resolveWith_holds (hkept : KeptByResolving disk P C)
    (expand : Seen → Path → List String → Except Fault Resolution)
    (hexpand : ∀ seen here names found, SeenHolds P seen → P here →
      (∀ name ∈ names, '/' ∉ name.toList) → expand seen here names = .ok found →
        ResolutionHolds P C found)
    (seen : Seen) (here : Path) (names : List String) (found : Resolution)
    (hseen : SeenHolds P seen) (hhere : P here) (hnames : ∀ name ∈ names, '/' ∉ name.toList)
    (h : resolveWith disk expand seen here names = .ok found) : ResolutionHolds P C found := by
  induction names generalizing seen here with
  | nil =>
    obtain rfl : .full here seen = found := by simpa [resolveWith] using h
    exact ⟨hhere, hseen⟩
  | cons name rest ih =>
    obtain ⟨hname, hrest⟩ := List.forall_mem_cons.mp hnames
    unfold resolveWith at h
    split_ifs at h with hdot hup
    · exact ih seen here hseen hhere hrest h
    · exact ih seen (up here) hseen (hkept.climb here hhere) hrest h
    · have hsolid : IsName name := by
        refine ⟨?_, hname⟩
        simpa [Path.isSolid] using hdot
      dsimp only at h
      split at h
      · cases h
      · next target _ =>
        split at h
        · next known hknown =>
          have hholds : P known := hseen _ known (mem_of_lookup_eq_some _ _ _ hknown)
          exact ih seen known hseen hholds hrest h
        · obtain rfl : .circle (followedBy (here.child name) rest) = found := by simpa using h
          exact hkept.circle here name rest hhere hsolid
        · have hstart :
              P (if Anchor.ofChars target.toList = .relative then here else ⟨.root, []⟩) := by
            split_ifs
            · exact hhere
            · exact hkept.root
          have hopen : SeenHolds P ((here.child name, none) :: seen) :=
            seenHolds_cons (here.child name) none seen (by simp) hseen
          have htarget := fun found => hexpand _ _ (targetParts target) found hopen hstart
            (not_mem_of_mem_targetParts target)
          split at h
          · cases h
          · next path hpath =>
            obtain rfl : .circle (followedBy path rest) = found := by simpa using h
            exact hkept.rest path rest (htarget _ hpath)
          · next path met hpath =>
            obtain ⟨hholds, hmet⟩ := htarget _ hpath
            have hclosed := seenHolds_cons (here.child name) (some path) met
              (by simpa using hholds) hmet
            exact ih _ path hclosed hholds hrest h
      · next hnul hlink =>
        exact ih seen (here.child name) hseen (hkept.child here name hhere hsolid hup hlink) hrest h

theorem resolveWithin_holds (hkept : KeptByResolving disk P C) (room : Nat) (seen : Seen)
    (here : Path) (names : List String) (found : Resolution) (hseen : SeenHolds P seen)
    (hhere : P here) (hnames : ∀ name ∈ names, '/' ∉ name.toList)
    (h : resolveWithin disk room seen here names = .ok found) : ResolutionHolds P C found := by
  induction room generalizing seen here names found with
  | zero => cases h
  | succ room ih => exact resolveWith_holds hkept _ ih seen here names found hseen hhere hnames h

/-- What resolving the links of a path comes to, before the outcome is seen from the current
directory. -/
def resolution (disk : Disk) (p : Path) : Except Fault Resolution :=
  resolveWithin disk (disk.linkRoom + 1) []
    (if p.anchor = .relative then ⟨.relative, []⟩ else ⟨.root, []⟩) p.parts

theorem resolution_holds (hkept : KeptByResolving disk P C) (hrelative : P ⟨.relative, []⟩)
    (p : Path) (found : Resolution) (hp : Spelled p) (h : resolution disk p = .ok found) :
    ResolutionHolds P C found := by
  have hstart : P (if p.anchor = .relative then ⟨.relative, []⟩ else ⟨.root, []⟩) := by
    split_ifs
    · exact hrelative
    · exact hkept.root
  exact resolveWithin_holds hkept _ [] _ p.parts found (by simp [SeenHolds]) hstart
    (fun name hname => (hp name hname).2) h

lemma resolve_eq_ok (p q : Path) (h : disk.resolve p = .ok q) :
    ∃ found, resolution disk p = .ok found ∧ disk.absoluteOf found = q := by
  unfold Disk.resolve at h
  dsimp only at h
  split at h
  · cases h
  · next found hfound =>
    refine ⟨found, hfound, ?_⟩
    split at h
    · cases h
    · cases h
    · exact Except.ok.inj h

end Resolving

end StoryAtlas.Proofs
