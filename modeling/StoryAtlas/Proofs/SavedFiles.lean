import StoryAtlas.Proofs.IndexRuns
import StoryAtlas.Server.Tool

/-!
# Saved files and editor buffers

A text reaches the index from an editor, as a text, or from a saved file, as bytes. The checks that
a build makes on the bytes are those that an editor buffer passes, told by the text: the size of the
file is the size of the text, the only character with a zero byte is NUL, and the bytes tell the
text. What a build files is then what an update files, without a byte-order mark in front.
-/

namespace StoryAtlas.Proofs
open StoryAtlas.Disk StoryAtlas.Story

/-! ### Texts and their bytes -/

lemma fromUTF8?_toUTF8 (t : String) : String.fromUTF8? t.toUTF8 = some t :=
  dif_pos t.isValidUTF8

lemma toUTF8_of_fromUTF8? {content : ByteArray} {t : String}
    (h : String.fromUTF8? content = some t) : t.toUTF8 = content := by
  unfold String.fromUTF8? at h
  split_ifs at h with hvalid
  obtain rfl := Option.some.inj h
  rfl

lemma bytes_toUTF8 (t : String) :
    t.toUTF8.data.toList = t.toList.flatMap String.utf8EncodeChar := by
  have hbytes : t.toUTF8 = t.toList.utf8Encode := by
    rw [← String.toByteArray_ofList, String.ofList_toList]
    rfl
  rw [hbytes]
  exact List.toList_data_toByteArray

lemma ofNat_ne_zero (n : Nat) (hpos : 0 < n) (hlt : n < 256) : UInt8.ofNat n ≠ 0 := by
  intro h
  have hnat := congrArg UInt8.toNat h
  rw [UInt8.toNat_ofNat', Nat.mod_eq_of_lt hlt] at hnat
  simp at hnat
  omega

/-- Of all characters only NUL has a zero byte: every byte of a longer code has its first bit set.
-/
lemma zero_mem_utf8EncodeChar_iff (c : Char) :
    (0 : UInt8) ∈ String.utf8EncodeChar c ↔ c = Char.ofNat 0 := by
  constructor
  · intro h
    by_contra hc
    have hpos : 0 < c.val.toNat := by
      rw [Nat.pos_iff_ne_zero]
      intro hzero
      exact hc (Char.ext (UInt32.toNat_inj.mp hzero))
    unfold String.utf8EncodeChar at h
    dsimp only at h
    split_ifs at h
    all_goals
      simp only [List.mem_cons, List.not_mem_nil, or_false] at h
    · exact ofNat_ne_zero _ hpos (by omega) h.symm
    · rcases h with h | h <;> exact ofNat_ne_zero _ (by omega) (by omega) h.symm
    · rcases h with h | h | h <;> exact ofNat_ne_zero _ (by omega) (by omega) h.symm
    · rcases h with h | h | h | h <;> exact ofNat_ne_zero _ (by omega) (by omega) h.symm
  · rintro rfl
    decide

lemma contains_zero_toUTF8_iff (t : String) :
    t.toUTF8.data.contains 0 = true ↔ Char.ofNat 0 ∈ t.toList := by
  rw [Array.contains_iff_mem, ← Array.mem_toList_iff, bytes_toUTF8, List.mem_flatMap]
  constructor
  · rintro ⟨c, hc, hzero⟩
    rwa [← (zero_mem_utf8EncodeChar_iff c).mp hzero]
  · intro hnul
    exact ⟨_, hnul, (zero_mem_utf8EncodeChar_iff _).mpr rfl⟩

/-! ### The byte-order mark -/

/-- The bytes of U+FEFF. -/
def byteOrderMark : ByteArray := ⟨#[0xEF, 0xBB, 0xBF]⟩

/-- `bare` is `t` without one U+FEFF in front, if there is one. -/
def Unmarked (t bare : String) : Prop :=
  t = "\ufeff" ++ bare ∨ bare = t ∧ ∀ rest, t ≠ "\ufeff" ++ rest

lemma toUTF8_marked (t : String) : ("\ufeff" ++ t).toUTF8 = byteOrderMark ++ t.toUTF8 := by
  rw [String.toUTF8, String.toByteArray_append]
  rfl

lemma dropMark_marked (t : String) : dropMark ("\ufeff" ++ t) = t := by
  have hchars : ("\ufeff" ++ t).toList = Char.ofNat 0xFEFF :: t.toList := by
    rw [String.toList_append]
    rfl
  simp only [dropMark, hchars, if_pos, String.ofList_toList]

lemma unmarked_dropMark (t : String) : Unmarked t (dropMark t) := by
  by_cases hmark : ∃ rest, t = "\ufeff" ++ rest
  · obtain ⟨rest, rfl⟩ := hmark
    rw [dropMark_marked]
    exact Or.inl rfl
  · have hplain : ∀ rest, t ≠ "\ufeff" ++ rest := fun rest heq => hmark ⟨rest, heq⟩
    refine Or.inr ⟨?_, hplain⟩
    unfold dropMark
    split
    · next c cs hchars =>
      split_ifs with hc
      · refine absurd ?_ (hplain (String.ofList cs))
        rw [← String.ofList_toList (s := t), hchars, hc, String.ofList_cons]
        rfl
      · rfl
    · rfl

lemma eq_dropMark_of_unmarked {t bare : String} (h : Unmarked t bare) : bare = dropMark t := by
  rcases h with rfl | ⟨rfl, hplain⟩
  · exact (dropMark_marked bare).symm
  · rcases unmarked_dropMark bare with hmarked | ⟨hsame, _⟩
    · exact absurd hmarked (hplain _)
    · exact hsame.symm

/-! ### Reading a saved file -/

/-- What is read from the bytes of a text, by the checks on a text. -/
theorem decodeStory_toUTF8 (maxBytes : Int) (t : String) :
    decodeStory maxBytes t.toUTF8 =
      if checkTextSize maxBytes t ≠ .ok () then .error .tooLarge
      else if Char.ofNat 0 ∈ t.toList then .error .binary
      else .ok (dropMark t) := by
  have hsize : checkTextSize maxBytes t ≠ .ok () ↔ maxBytes < (t.toUTF8.size : Int) := by
    change _ ↔ maxBytes < (t.utf8ByteSize : Int)
    unfold checkTextSize
    split_ifs with hlarge
    · simp [hlarge]
    · simp [hlarge]
  unfold decodeStory
  simp only [hsize, ← contains_zero_toUTF8_iff, fromUTF8?_toUTF8]

/-- The bytes are those of a text within the limit and without a NUL character, and `bare` is that
text without a byte-order mark in front. -/
def Spells (maxBytes : Int) (content : ByteArray) (bare : String) : Prop :=
  ∃ t : String, content = t.toUTF8 ∧ Unmarked t bare ∧ (content.size : Int) ≤ maxBytes ∧
    Char.ofNat 0 ∉ t.toList

theorem decodeStory_eq_ok_iff (maxBytes : Int) (content : ByteArray) (bare : String) :
    decodeStory maxBytes content = .ok bare ↔ Spells maxBytes content bare := by
  unfold decodeStory
  constructor
  · intro h
    split_ifs at h with hsize hnul
    split at h
    · next t hdecoded =>
      obtain rfl := Except.ok.inj h
      obtain rfl := toUTF8_of_fromUTF8? hdecoded
      exact ⟨t, rfl, unmarked_dropMark t, Int.not_lt.mp hsize,
        fun hmem => hnul ((contains_zero_toUTF8_iff t).mpr hmem)⟩
    · cases h
  · rintro ⟨t, rfl, hunmarked, hsize, hnul⟩
    rw [if_neg (Int.not_lt.mpr hsize), if_neg (mt (contains_zero_toUTF8_iff t).mp hnul),
      fromUTF8?_toUTF8, eq_dropMark_of_unmarked hunmarked]

/-- What is read from a file is what its bytes say, up to a byte-order mark in front. -/
theorem decodeStory_ok {maxBytes : Int} {content : ByteArray} {text : String}
    (h : decodeStory maxBytes content = .ok text) :
    content = text.toUTF8 ∨ content = byteOrderMark ++ text.toUTF8 := by
  obtain ⟨t, rfl, hmarked | ⟨hsame, _⟩, _⟩ := (decodeStory_eq_ok_iff maxBytes content text).mp h
  · right
    rw [← toUTF8_marked, ← hmarked]
  · left
    rw [hsame]

lemma readStory_ok {disk : Disk} {maxBytes : Int} {q : Path} {text : String}
    (h : disk.readStory maxBytes q = .ok (.ok text)) :
    ∃ content, disk.readBytes q = .ok content ∧ decodeStory maxBytes content = .ok text := by
  unfold Disk.readStory at h
  split at h
  · next content hbytes => exact ⟨content, hbytes, Except.ok.inj h⟩
  · cases h
  · cases h

/-- The index and the report after a build of the one file `p` are what the checks on an editor
buffer with the text `t`, and an update with it, lead to expect. -/
structure LikeBuffer (base : Path) (maxBytes : Int) (p : Path) (t : String) (index : Index)
    (report : Report) : Prop where
  tooLarge : report.failures = [⟨Path.canonical base p, "File exceeds max_file_bytes limit."⟩] ↔
    ∃ refusal, checkTextSize maxBytes t = .error refusal
  binary : checkTextSize maxBytes t = .ok () →
    (report.failures = [⟨Path.canonical base p, "File looks binary."⟩] ↔ Char.ofNat 0 ∈ t.toList)
  loaded : checkTextSize maxBytes t = .ok () → Char.ofNat 0 ∉ t.toList →
    ∀ bare, Unmarked t bare → report.failures = [] ∧ report.indexed = [Path.canonical base p] ∧
      index.get? p = some ((Index.empty base).update p bare).2
  failed : report.failures ≠ [] → report.indexed = [] ∧ index.get? p = none

/-- A build of one file is decided by what is read there. -/
lemma build_single (base : Path) (disk : Disk) (maxBytes : Int) (p : Path) (timestamp : String)
    (durationMs : Nat) (content : ByteArray)
    (h : disk.readBytes (Path.canonical base p) = .ok content) :
    let harvest := Harvest.cons (Path.canonical base p) (decodeStory maxBytes content) ⟨[], []⟩
    (Index.empty base).build disk maxBytes [p] timestamp durationMs =
      .ok ((Index.empty base).merge harvest.loaded timestamp, harvest.report timestamp durationMs,
        harvest.failureEvents ++ [harvest.buildEvent durationMs]) := by
  intro harvest
  have hkeys : (Index.empty base).keys [p] = [Path.canonical base p] := by
    simp [Index.keys, Index.key, Index.empty, List.eraseDups_cons]
  have hread : disk.readStory maxBytes (Path.canonical base p) =
      .ok (decodeStory maxBytes content) := by
    simp only [Disk.readStory, h]
  have hgather : (Index.empty base).gather disk maxBytes [p] = .ok harvest := by
    simp only [Index.gather, hkeys, Harvest.gather, hread]
    rfl
  simp only [Index.build, hgather]

/-- A text that the checks refuse is reported with the reason, and nothing is filed. -/
lemma likeBuffer_of_refused (base : Path) (maxBytes : Int) (p : Path) (t timestamp : String)
    (durationMs : Nat) (failure : ReadFailure)
    (hsize : failure = .tooLarge ↔ ∃ refusal, checkTextSize maxBytes t = .error refusal)
    (hnul : checkTextSize maxBytes t = .ok () → Char.ofNat 0 ∈ t.toList ∧ failure = .binary) :
    let harvest := Harvest.cons (Path.canonical base p) (.error failure) ⟨[], []⟩
    LikeBuffer base maxBytes p t ((Index.empty base).merge harvest.loaded timestamp)
      (harvest.report timestamp durationMs) := by
  have hreason : ∀ e : OsError, e.message ≠ "File exceeds max_file_bytes limit." := by
    intro e
    cases e <;> decide
  refine ⟨?_, ?_, ?_, ?_⟩
  · rw [← hsize]
    cases failure <;> simp [Harvest.report, Harvest.cons, ReadFailure.reason, hreason]
  · intro hok
    obtain ⟨hmem, rfl⟩ := hnul hok
    simp [Harvest.report, Harvest.cons, ReadFailure.reason, hmem]
  · intro hok hnot
    exact absurd (hnul hok).1 hnot
  · intro _
    exact ⟨rfl, rfl⟩

/-- A text that passes the checks is filed. -/
lemma likeBuffer_of_read (base : Path) (maxBytes : Int) (p : Path) (t timestamp : String)
    (durationMs : Nat) (hsize : checkTextSize maxBytes t = .ok ())
    (hnul : Char.ofNat 0 ∉ t.toList) :
    let harvest := Harvest.cons (Path.canonical base p) (.ok (dropMark t)) ⟨[], []⟩
    LikeBuffer base maxBytes p t ((Index.empty base).merge harvest.loaded timestamp)
      (harvest.report timestamp durationMs) := by
  refine ⟨?_, ?_, ?_, ?_⟩
  · simp [Harvest.report, Harvest.cons, hsize]
  · intro _
    simp [Harvest.report, Harvest.cons, hnul]
  · intro _ _ bare hbare
    rw [eq_dropMark_of_unmarked hbare]
    refine ⟨rfl, rfl, ?_⟩
    exact entry?_merge_of_mem (Index.empty base) _ timestamp _ (List.mem_singleton.mpr rfl)
      fun other hother _ => List.mem_singleton.mp hother
  · intro hfailed
    exact absurd rfl hfailed

/-- A build of a saved file, by its path, treats the file as an editor buffer with its text is
treated; and all that can be read from any file is a text that its bytes say. -/
theorem saved_files_like_buffers (base : Path) (disk : Disk) (maxBytes : Int) :
    (∀ p t timestamp durationMs, disk.readBytes (Path.canonical base p) = .ok t.toUTF8 →
      ∃ index report events,
        (Index.empty base).build disk maxBytes [p] timestamp durationMs =
          .ok (index, report, events) ∧
        LikeBuffer base maxBytes p t index report) ∧
    (∀ q text, disk.readStory maxBytes q = .ok (.ok text) →
      ∃ content, disk.readBytes q = .ok content ∧
        (content = text.toUTF8 ∨ content = byteOrderMark ++ text.toUTF8)) := by
  constructor
  · intro p t timestamp durationMs hfile
    have hbuild := build_single base disk maxBytes p timestamp durationMs t.toUTF8 hfile
    refine ⟨_, _, _, hbuild, ?_⟩
    rw [decodeStory_toUTF8]
    by_cases hsize : checkTextSize maxBytes t = .ok ()
    · rw [if_neg (by simp [hsize])]
      by_cases hnul : Char.ofNat 0 ∈ t.toList
      · rw [if_pos hnul]
        exact likeBuffer_of_refused base maxBytes p t timestamp durationMs .binary (by simp [hsize])
          fun _ => ⟨hnul, rfl⟩
      · rw [if_neg hnul]
        exact likeBuffer_of_read base maxBytes p t timestamp durationMs hsize hnul
    · rw [if_pos hsize]
      have hrefused : ∃ refusal, checkTextSize maxBytes t = .error refusal := by
        cases hcheck : checkTextSize maxBytes t with
        | error refusal => exact ⟨refusal, rfl⟩
        | ok done => exact absurd hcheck hsize
      exact likeBuffer_of_refused base maxBytes p t timestamp durationMs .tooLarge
        (by simp [hrefused]) fun hok => absurd hok hsize
  · intro q text hread
    obtain ⟨content, hbytes, hdecoded⟩ := readStory_ok hread
    exact ⟨content, hbytes, decodeStory_ok hdecoded⟩

/-- A saved file with a byte-order mark is filed as its text without the mark. -/
theorem saved_files_like_buffers_marked :
    let base : Path := ⟨.root, ["story"]⟩
    let p : Path := ⟨.relative, ["a.ink"]⟩
    let disk : Disk := ⟨.dir [("story", .dir [("a.ink", .file "\ufeff=== a".toUTF8)])], base, 900⟩
    (∃ index report events,
      (Index.empty base).build disk 8 [p] "now" 0 = .ok (index, report, events) ∧
      report.failures = [] ∧ index.get? p = some ((Index.empty base).update p "=== a").2) ∧
    ∃ content, disk.readBytes ⟨.root, ["story", "a.ink"]⟩ = .ok content ∧
      (content = "=== a".toUTF8 ∨ content = byteOrderMark ++ "=== a".toUTF8) := by
  intro base p disk
  have h := saved_files_like_buffers base disk 8
  obtain ⟨index, report, events, hbuild, halike⟩ := h.1 p "\ufeff=== a" "now" 0 (by
    decide +kernel)
  have hloaded := halike.loaded (by decide +kernel) (by decide +kernel) "=== a" (Or.inl rfl)
  refine ⟨⟨index, report, events, hbuild, hloaded.1, hloaded.2.2⟩, ?_⟩
  exact h.2 ⟨.root, ["story", "a.ink"]⟩ "=== a" (by decide +kernel)

/-- A file is asked for by its canonical path, in which `..` takes back the name before it. Behind a
link to a directory this is another place than the one that the path leads to. -/
theorem saved_file_behind_link :
    ¬ ∀ (disk : Disk) (maxBytes : Int) (p : Path) (t timestamp : String) (durationMs : Nat),
      1 ≤ maxBytes → disk.readBytes p = .ok t.toUTF8 →
      ∃ index report events,
        (Index.empty disk.cwd).build disk maxBytes [p] timestamp durationMs =
          .ok (index, report, events) ∧
        LikeBuffer disk.cwd maxBytes p t index report := by
  intro h
  let disk : Disk := ⟨.dir [("proj", .dir
    [("link", .link "real/dir"),
     ("real", .dir [("dir", .dir []), ("file.ink", .file "=== a".toUTF8)])])],
    ⟨.root, ["proj"]⟩, 900⟩
  obtain ⟨index, report, events, hbuild, halike⟩ :=
    h disk 100 ⟨.relative, ["link", "..", "file.ink"]⟩ "=== a" "now" 0 (by decide) rfl
  have hloaded := halike.loaded (by decide +kernel) (by decide +kernel) "=== a"
    (Or.inr ⟨rfl, ?_⟩)
  · have hrun : ((Index.empty disk.cwd).build disk 100
        [⟨.relative, ["link", "..", "file.ink"]⟩] "now" 0).map (fun result => result.2.1.failures) =
        .ok [⟨⟨.root, ["proj", "file.ink"]⟩, "No such file or directory"⟩] := by
      decide +kernel
    rw [hbuild] at hrun
    have hfailures : report.failures =
        [⟨⟨.root, ["proj", "file.ink"]⟩, "No such file or directory"⟩] :=
      Except.ok.inj hrun
    rw [hfailures] at hloaded
    exact absurd hloaded.1 (by simp)
  · intro rest heq
    have hchars := congrArg (fun s => s.toList.head?) heq
    simp at hchars

end StoryAtlas.Proofs
