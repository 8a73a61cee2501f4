import StoryAtlas.Config.Load
import StoryAtlas.Proofs.LowerCase

/-!
# Merged settings

A configuration is laid in layers: an override goes before a setting of the project, and a setting
before the default. Every value that is given is checked, also where a later layer replaces it. So
there is no configuration at all if one of them is wrong; otherwise each value comes from the last
layer that gives it.
-/

namespace StoryAtlas.Proofs
open StoryAtlas.Disk StoryAtlas.Text

section Except

variable {ε α β : Type}

lemma bind_eq_ok_iff {x : Except ε α} {f : α → Except ε β} {result : β} :
    x.bind f = .ok result ↔ ∃ value, x = .ok value ∧ f value = .ok result := by
  cases x <;> simp [Except.bind]

lemma do_eq_ok_iff {x : Except ε α} {f : α → Except ε β} {result : β} :
    (x >>= f) = .ok result ↔ ∃ value, x = .ok value ∧ f value = .ok result :=
  bind_eq_ok_iff

end Except

/-! ### Tables -/

/-- The table at a key of the settings; one that is missing is empty. -/
def tableAt (settings : Settings) (name : String) : Settings :=
  match settings.lookup name with
  | some (.table fields) => fields
  | _ => []

lemma section?_eq_ok_iff {settings fields : Settings} {name : String} :
    Config.section? settings name = .ok fields ↔
      (∀ value, settings.lookup name = some value → ∃ fields, value = .table fields) ∧
        tableAt settings name = fields := by
  unfold Config.section? tableAt
  cases settings.lookup name with
  | none => simp
  | some value => cases value <;> simp

/-! ### Numbers -/

/-- The three numbers of a configuration. -/
inductive NumberField where
  | fileBytes
  | responseBytes
  | workers

namespace NumberField

/-- The table of the settings that holds the number. -/
def table : NumberField → String
  | fileBytes => "limits"
  | responseBytes => "limits"
  | workers => "index"

/-- The key of the number in its table. -/
def key : NumberField → String
  | fileBytes => "max_file_bytes"
  | responseBytes => "max_total_bytes_per_response"
  | workers => "max_workers"

/-- The largest value of the number. -/
def cap : NumberField → Int
  | fileBytes => Config.maxFileBytesCap
  | responseBytes => Config.maxResponseBytesCap
  | workers => Config.maxWorkersCap

/-- The number in a configuration. -/
def of (config : Config) : NumberField → Int
  | fileBytes => config.limits.maxFileBytes
  | responseBytes => config.limits.maxResponseBytes
  | workers => config.maxWorkers

/-- What the settings say about the number; null if they say nothing. -/
def setting (settings : Settings) (field : NumberField) : Setting :=
  ((tableAt settings field.table).lookup field.key).getD .null

/-- What the overrides say about the number. -/
def override (overrides : Overrides) : NumberField → Setting
  | fileBytes => overrides.maxFileBytes
  | responseBytes => overrides.maxResponseBytes
  | workers => overrides.maxWorkers

lemma forall_iff {p : NumberField → Prop} :
    (∀ field, p field) ↔ p fileBytes ∧ p responseBytes ∧ p workers :=
  ⟨fun h => ⟨h _, h _, h _⟩, fun ⟨hfile, hresponse, hworkers⟩ field => by cases field <;> assumption⟩

end NumberField

/-- The whole number, if the value is one. -/
def number? : Setting → Option Int
  | .int n => some n
  | _ => none

/-- The value is null or a whole number between one and the cap. -/
def Admits (cap : Int) (value : Setting) : Prop :=
  value ≠ .null → ∃ n, value = .int n ∧ 1 ≤ n ∧ n ≤ cap

lemma capped_eq_ok_iff {field : String} {cap old n : Int} {value : Setting} :
    Config.capped field cap old value = .ok n ↔
      Admits cap value ∧ (number? value).getD old = n := by
  unfold Config.capped Admits
  cases value with
  | null => simp [number?]
  | int i =>
    dsimp only
    split_ifs with hlow hhigh
    · simp [show ¬1 ≤ i by omega]
    · simp [show ¬i ≤ cap by omega]
    · simp [number?, show 1 ≤ i by omega, show i ≤ cap by omega]
  | _ => simp

/-- Lays numbers over a configuration. -/
def layNumbers (config : Config) (given : NumberField → Setting) : Config :=
  let number (field : NumberField) := (number? (given field)).getD (field.of config)
  { config with
    limits := ⟨number .fileBytes, number .responseBytes⟩
    maxWorkers := number .workers }

lemma of_layNumbers (config : Config) (given : NumberField → Setting) (field : NumberField) :
    field.of (layNumbers config given) = (number? (given field)).getD (field.of config) := by
  cases field <;> rfl

lemma withNumbers_eq_ok_iff {config after : Config} {overrides : Overrides} :
    config.withNumbers overrides = .ok after ↔
      (∀ field : NumberField, Admits field.cap (field.override overrides)) ∧
        layNumbers config (NumberField.override overrides) = after := by
  simp only [Config.withNumbers, do_eq_ok_iff, capped_eq_ok_iff, NumberField.forall_iff]
  constructor
  · rintro ⟨_, ⟨hfile, rfl⟩, _, ⟨hresponse, rfl⟩, _, ⟨hworkers, rfl⟩, hafter⟩
    exact ⟨⟨hfile, hresponse, hworkers⟩, Except.ok.inj hafter⟩
  · rintro ⟨⟨hfile, hresponse, hworkers⟩, rfl⟩
    exact ⟨_, ⟨hfile, rfl⟩, _, ⟨hresponse, rfl⟩, _, ⟨hworkers, rfl⟩, rfl⟩

/-! ### Texts -/

/-- The texts, if the value is a list of texts. -/
def texts? : Setting → Option (List String)
  | .list items => items.mapM Setting.text?
  | _ => none

lemma mapM_text? (items : List Setting) :
    items.mapM Setting.text? =
      if items.all (·.text?.isSome) then some (items.filterMap Setting.text?) else none := by
  induction items with
  | nil => rfl
  | cons item items ih =>
    rw [List.mapM_cons, ih, List.all_cons, List.filterMap_cons]
    cases item.text? <;> cases items.all (·.text?.isSome) <;> rfl

lemma stringsOf_eq (field : String) (value : Setting) :
    Config.stringsOf field value = (texts? value).elim (.error (.notStrings field)) .ok := by
  cases value with
  | list items =>
    simp only [Config.stringsOf, texts?, mapM_text?]
    split_ifs <;> rfl
  | _ => rfl

lemma globsOf_eq_ok_iff {index : Settings} {old globs : List String} :
    Config.globsOf index old = .ok globs ↔
      (∀ value, index.lookup "exclude_globs" = some value → (texts? value).isSome) ∧
        ((index.lookup "exclude_globs").bind texts?).getD old = globs := by
  unfold Config.globsOf
  cases index.lookup "exclude_globs" with
  | none => simp
  | some value =>
    dsimp only
    rw [stringsOf_eq]
    cases htexts : texts? value <;> simp [htexts]

/-! ### Extensions -/

/-- An extension in lower case, without blanks around it and with its dot. -/
def normalForm (extension : String) : String :=
  let lowered := lower (trim extension)
  if lowered.toList.head? = some '.' then lowered else "." ++ lowered

/-- The extension starts with its dot and has no blanks around it. -/
structure IsNormal (extension : String) : Prop where
  dot : extension.toList.head? = some '.'
  trimmed : IsTrimmed extension.toList

lemma lower_trim_eq_empty_iff (extension : String) :
    lower (trim extension) = "" ↔ isBlankText extension = true := by
  rw [← trim_eq_empty_iff, ← String.toList_inj, lower, String.toList_ofList, String.toList_empty,
    lowerFrom_eq_nil_iff, String.toList_eq_nil_iff]

lemma isTrimmed_lower_trim (extension : String) : IsTrimmed (lower (trim extension)).toList := by
  rw [lower, String.toList_ofList, trim, String.toList_ofList]
  exact isTrimmed_lowerFrom [] (isTrimmed_trimBlanks _)

lemma normalExtension?_eq (extension : String) :
    Config.normalExtension? extension =
      if isBlankText extension then none else some (normalForm extension) := by
  unfold Config.normalExtension? normalForm
  dsimp only
  simp only [← lower_trim_eq_empty_iff]
  split_ifs <;> rfl

lemma isNormal_normalForm {extension : String} (h : isBlankText extension = false) :
    IsNormal (normalForm extension) := by
  have htrimmed := isTrimmed_lower_trim extension
  unfold normalForm
  dsimp only
  split_ifs with hdot
  · exact ⟨hdot, htrimmed⟩
  · have hne : (lower (trim extension)).toList ≠ [] := by
      rw [ne_eq, String.toList_eq_nil_iff, lower_trim_eq_empty_iff, h]
      simp
    refine ⟨by simp, ⟨fun c hc => ?_, fun c hc => htrimmed.last c ?_⟩⟩
    · obtain rfl : '.' = c := by simpa using hc
      decide
    · rwa [String.toList_append, List.getLast?_append_of_ne_nil _ hne] at hc

/-- The value is a list of texts, none of which is blank. -/
def IsExtensions (value : Setting) : Prop :=
  ∃ texts, texts? value = some texts ∧ ∀ text ∈ texts, isBlankText text = false

lemma mapM_normalExtension? (extensions : List String) :
    extensions.mapM Config.normalExtension? =
      if extensions.any isBlankText then none else some (extensions.map normalForm) := by
  induction extensions with
  | nil => rfl
  | cons extension extensions ih =>
    rw [List.mapM_cons, ih, normalExtension?_eq, List.any_cons]
    cases isBlankText extension <;> cases extensions.any isBlankText <;> rfl

lemma extensionsOf_eq_ok_iff {index : Settings} {old extensions : List String} :
    Config.extensionsOf index old = .ok extensions ↔
      (∀ value, index.lookup "include_extensions" = some value → IsExtensions value) ∧
        ((index.lookup "include_extensions").bind texts?).elim old (·.map normalForm) =
          extensions := by
  unfold Config.extensionsOf
  cases index.lookup "include_extensions" with
  | none => simp
  | some value =>
    dsimp only
    rw [stringsOf_eq]
    cases htexts : texts? value with
    | none => simp [IsExtensions, htexts]
    | some texts =>
      have hgood : IsExtensions value ↔ texts.any isBlankText = false := by
        simp [IsExtensions, htexts]
      simp only [Option.elim, Config.normalExtensions, mapM_normalExtension?]
      cases hany : texts.any isBlankText <;> simp [hgood, hany, htexts]

/-! ### Layers -/

/-- Nothing is wrong with the settings of a project. -/
structure AdmissibleSettings (settings : Settings) : Prop where
  tables : ∀ name ∈ ["limits", "index"], ∀ value, settings.lookup name = some value →
    ∃ fields, value = .table fields
  numbers : ∀ field : NumberField, Admits field.cap (field.setting settings)
  extensions : ∀ value, (tableAt settings "index").lookup "include_extensions" = some value →
    IsExtensions value
  globs : ∀ value, (tableAt settings "index").lookup "exclude_globs" = some value →
    (texts? value).isSome

/-- Nothing is wrong with the overridden numbers. -/
def AdmissibleOverrides (overrides : Overrides) : Prop :=
  ∀ field : NumberField, Admits field.cap (field.override overrides)

/-- The texts that the settings give at a key of the index table. -/
def textsAt? (settings : Settings) (key : String) : Option (List String) :=
  ((tableAt settings "index").lookup key).bind texts?

/-- Lays settings over a configuration. -/
def laySettings (config : Config) (settings : Settings) : Config :=
  { layNumbers config (NumberField.setting settings) with
    filter :=
      { extensions := (textsAt? settings "include_extensions").elim config.filter.extensions
          (·.map normalForm)
        excludeGlobs := (textsAt? settings "exclude_globs").getD config.filter.excludeGlobs } }

lemma withSettings_eq_ok_iff {config after : Config} {settings : Settings} :
    config.withSettings settings = .ok after ↔
      AdmissibleSettings settings ∧ laySettings config settings = after := by
  -- each step says what it takes to get past it, and which value the later steps see
  simp only [Config.withSettings, do_eq_ok_iff, section?_eq_ok_iff, Config.cappedField,
    capped_eq_ok_iff, extensionsOf_eq_ok_iff, globsOf_eq_ok_iff]
  constructor
  · rintro ⟨_, ⟨hlimits, rfl⟩, _, ⟨hindex, rfl⟩, _, ⟨hfile, rfl⟩, _, ⟨hresponse, rfl⟩, _,
      ⟨hworkers, rfl⟩, _, ⟨hextensions, rfl⟩, _, ⟨hglobs, rfl⟩, hafter⟩
    refine ⟨⟨?_, NumberField.forall_iff.mpr ⟨hfile, hresponse, hworkers⟩, hextensions, hglobs⟩,
      Except.ok.inj hafter⟩
    simpa using ⟨hlimits, hindex⟩
  · rintro ⟨⟨htables, hnumbers, hextensions, hglobs⟩, rfl⟩
    obtain ⟨hfile, hresponse, hworkers⟩ := NumberField.forall_iff.mp hnumbers
    exact ⟨_, ⟨htables _ (by simp), rfl⟩, _, ⟨htables _ (by simp), rfl⟩, _, ⟨hfile, rfl⟩, _,
      ⟨hresponse, rfl⟩, _, ⟨hworkers, rfl⟩, _, ⟨hextensions, rfl⟩, _, ⟨hglobs, rfl⟩, rfl⟩

/-- Lays settings and overridden numbers over a configuration. -/
def layAll (base : Config) (settings : Settings) (overrides : Overrides) : Config :=
  layNumbers (laySettings base settings) (NumberField.override overrides)

section Merge

variable {disk : Disk} {base : Config} {settings : Settings} {overrides : Overrides}

lemma merge_of_admissible (hsettings : AdmissibleSettings settings)
    (hoverrides : AdmissibleOverrides overrides) :
    Config.merge disk base settings overrides =
      match disk.resolve (overrides.dataDir.getD base.dataDir) with
      | .error e => .error (.disk e)
      | .ok dataDir => .ok { layAll base settings overrides with dataDir := dataDir } := by
  have hlayers : (base.withSettings settings).bind (·.withNumbers overrides) =
      .ok (layAll base settings overrides) :=
    bind_eq_ok_iff.mpr ⟨_, withSettings_eq_ok_iff.mpr ⟨hsettings, rfl⟩,
      withNumbers_eq_ok_iff.mpr ⟨hoverrides, rfl⟩⟩
  unfold Config.merge
  rw [hlayers]
  rfl

lemma merge_of_not_admissible
    (h : ¬(AdmissibleSettings settings ∧ AdmissibleOverrides overrides)) :
    ∃ error, Config.merge disk base settings overrides = .error (.config error) := by
  unfold Config.merge
  cases hlayers : (base.withSettings settings).bind (·.withNumbers overrides) with
  | error error => exact ⟨error, rfl⟩
  | ok config =>
    obtain ⟨settled, hsettings, hnumbers⟩ := bind_eq_ok_iff.mp hlayers
    exact absurd ⟨(withSettings_eq_ok_iff.mp hsettings).1, (withNumbers_eq_ok_iff.mp hnumbers).1⟩ h

lemma projectRoot_merge {after : Config}
    (h : Config.merge disk base settings overrides = .ok after) :
    after.projectRoot = base.projectRoot := by
  by_cases hadmissible : AdmissibleSettings settings ∧ AdmissibleOverrides overrides
  · rw [merge_of_admissible hadmissible.1 hadmissible.2] at h
    split at h
    · cases h
    · obtain rfl := Except.ok.inj h
      rfl
  · obtain ⟨error, herror⟩ : ∃ error, Config.merge disk base settings overrides =
        .error (.config error) := merge_of_not_admissible hadmissible
    rw [herror] at h
    cases h

end Merge

/-! ### The configuration -/

/-- Each value of the configuration comes from the last layer that gives it. -/
structure IsMerged (base : Config) (settings : Settings) (overrides : Overrides) (dataDir : Path)
    (config : Config) : Prop where
  number : ∀ field : NumberField, field.of config =
    ((number? (field.override overrides)).or (number? (field.setting settings))).getD (field.of base)
  bounds : ∀ field : NumberField, 1 ≤ field.of config ∧ field.of config ≤ field.cap
  extensions : config.filter.extensions =
    (textsAt? settings "include_extensions").elim base.filter.extensions (·.map normalForm)
  normal : ∀ extension ∈ config.filter.extensions, IsNormal extension
  globs : config.filter.excludeGlobs =
    (textsAt? settings "exclude_globs").getD base.filter.excludeGlobs
  dataDir : config.dataDir = dataDir
  projectRoot : config.projectRoot = base.projectRoot

lemma number_bounds {cap old : Int} {value : Setting} (h : Admits cap value)
    (hold : 1 ≤ old ∧ old ≤ cap) :
    1 ≤ (number? value).getD old ∧ (number? value).getD old ≤ cap := by
  cases value with
  | int i =>
    obtain ⟨n, hn, hbounds⟩ := h (by simp)
    obtain rfl := Setting.int.inj hn
    exact hbounds
  | _ => exact hold

lemma default_bounds (root : Path) (field : NumberField) :
    1 ≤ field.of (Config.default root) ∧ field.of (Config.default root) ≤ field.cap := by
  cases field <;>
    simp [NumberField.of, NumberField.cap, Config.default, Limits.default, Config.maxFileBytesCap,
      Config.maxResponseBytesCap, Config.maxWorkersCap]

lemma default_normal (root : Path) :
    ∀ extension ∈ (Config.default root).filter.extensions, IsNormal extension := by
  intro extension hextension
  obtain rfl := List.mem_singleton.mp hextension
  refine ⟨rfl, ⟨fun c hc => ?_, fun c hc => ?_⟩⟩
  · obtain rfl : '.' = c := Option.some.inj hc
    decide
  · obtain rfl : 'k' = c := Option.some.inj hc
    decide

lemma normal_of_extensions {settings : Settings} {old : List String}
    (h : ∀ value, (tableAt settings "index").lookup "include_extensions" = some value →
      IsExtensions value)
    (hold : ∀ extension ∈ old, IsNormal extension) :
    ∀ extension ∈ (textsAt? settings "include_extensions").elim old (·.map normalForm),
      IsNormal extension := by
  unfold textsAt?
  cases hlookup : (tableAt settings "index").lookup "include_extensions" with
  | none => exact hold
  | some value =>
    obtain ⟨texts, htexts, hnone⟩ := h value hlookup
    simp only [Option.bind_some, htexts, Option.elim_some, List.forall_mem_map]
    exact fun text htext => isNormal_normalForm (hnone text htext)

lemma isMerged_layAll {root dataDir : Path} {settings : Settings} {overrides : Overrides}
    (hsettings : AdmissibleSettings settings) (hoverrides : AdmissibleOverrides overrides) :
    IsMerged (Config.default root) settings overrides dataDir
      { layAll (Config.default root) settings overrides with dataDir := dataDir } where
  number field := by
    rw [Option.getD_or, ← of_layNumbers, ← of_layNumbers]
    cases field <;> rfl
  bounds field := by
    have hsettled := number_bounds (hsettings.numbers field) (default_bounds root field)
    rw [← of_layNumbers] at hsettled
    have hlaid := number_bounds (hoverrides field) hsettled
    rw [← of_layNumbers] at hlaid
    cases field <;> exact hlaid
  extensions := rfl
  normal := normal_of_extensions hsettings.extensions (default_normal root)
  globs := rfl
  dataDir := rfl
  projectRoot := rfl

/-- Settings and overrides are merged exactly if nothing is wrong with them, and then each value of
the configuration comes from the last layer that gives it. -/
theorem merged_or_refused {disk : Disk} {root dataDir : Path} {base : Config} (settings : Settings)
    (overrides : Overrides) (hbase : Config.defaultAt disk root = .ok base)
    (hdir : disk.resolve (overrides.dataDir.getD base.dataDir) = .ok dataDir) :
    ((∃ error, Config.merge disk base settings overrides = .error (.config error)) ↔
      ¬(AdmissibleSettings settings ∧ AdmissibleOverrides overrides)) ∧
    (AdmissibleSettings settings → AdmissibleOverrides overrides →
      ∃ config, Config.merge disk base settings overrides = .ok config ∧
        IsMerged base settings overrides dataDir config) := by
  obtain ⟨resolved, rfl⟩ : ∃ resolved, base = Config.default resolved := by
    unfold Config.defaultAt at hbase
    split at hbase
    · exact ⟨_, (Except.ok.inj hbase).symm⟩
    · cases hbase
  have hmerge (hsettings : AdmissibleSettings settings)
      (hoverrides : AdmissibleOverrides overrides) :
      Config.merge disk (Config.default resolved) settings overrides =
        .ok { layAll (Config.default resolved) settings overrides with dataDir := dataDir } := by
    rw [merge_of_admissible hsettings hoverrides, hdir]
  refine ⟨⟨?_, merge_of_not_admissible⟩, fun hsettings hoverrides =>
    ⟨_, hmerge hsettings hoverrides, isMerged_layAll hsettings hoverrides⟩⟩
  rintro ⟨error, herror⟩ ⟨hsettings, hoverrides⟩
  rw [hmerge hsettings hoverrides] at herror
  cases herror

/-- Two numbers are overridden, the third one is set and the extensions come into their normal form.
A wrong number in the settings is told although it is overridden. -/
theorem merged_or_refused_overridden :
    let disk : Disk := ⟨.dir [("proj", .dir [])], ⟨.root, []⟩, 900⟩
    let root : Path := ⟨.root, ["proj"]⟩
    let settings : Settings :=
      [("limits", .table [("max_file_bytes", .int 4096),
        ("max_total_bytes_per_response", .int 8192)]),
       ("index", .table [("include_extensions", .list [.text "INK", .text " .txt"]),
        ("max_workers", .int 2)])]
    let overrides : Overrides := ⟨none, .int 1024, .null, .int 3⟩
    Config.defaultAt disk root = .ok (.default root) ∧
      disk.resolve (root.child ".ink_index") = .ok (root.child ".ink_index") ∧
      AdmissibleSettings settings ∧ AdmissibleOverrides overrides ∧
      (∃ config, Config.merge disk (.default root) settings overrides = .ok config ∧
        config.limits = ⟨1024, 8192⟩ ∧ config.maxWorkers = 3 ∧
        config.filter.extensions = [".ink", ".txt"]) ∧
      ∃ error, Config.merge disk (.default root)
        [("limits", .table [("max_file_bytes", .bool true)])] overrides =
          .error (.config error) := by
  intro disk root settings overrides
  have hbase : Config.defaultAt disk root = .ok (.default root) := by decide +kernel
  have hdir : disk.resolve (root.child ".ink_index") = .ok (root.child ".ink_index") := by
    decide +kernel
  have hoverrides : AdmissibleOverrides overrides := by
    intro field hgiven
    cases field with
    | fileBytes => exact ⟨1024, rfl, by decide, by decide⟩
    | responseBytes => exact absurd rfl hgiven
    | workers => exact ⟨3, rfl, by decide, by decide⟩
  have hsettings : AdmissibleSettings settings := by
    refine ⟨?_, ?_, ?_, ?_⟩
    · intro name hname value hvalue
      rcases List.mem_pair.mp hname with rfl | rfl <;>
        exact ⟨_, (Option.some.inj hvalue).symm⟩
    · intro field _
      cases field with
      | fileBytes => exact ⟨4096, rfl, by decide, by decide⟩
      | responseBytes => exact ⟨8192, rfl, by decide, by decide⟩
      | workers => exact ⟨2, rfl, by decide, by decide⟩
    · intro value hvalue
      obtain rfl := Option.some.inj hvalue
      exact ⟨["INK", " .txt"], rfl, by decide⟩
    · intro value hvalue
      cases hvalue
  obtain ⟨config, hmerge, hmerged⟩ :=
    (merged_or_refused settings overrides hbase hdir).2 hsettings hoverrides
  refine ⟨hbase, hdir, hsettings, hoverrides, ⟨config, hmerge, ?_, hmerged.number .workers, ?_⟩, ?_⟩
  · exact congrArg₂ Limits.mk (hmerged.number .fileBytes) (hmerged.number .responseBytes)
  · rw [hmerged.extensions]
    decide +kernel
  · refine (merged_or_refused _ overrides hbase hdir).1.mpr fun ⟨hwrong, _⟩ => ?_
    obtain ⟨n, hn, _⟩ := hwrong.numbers .fileBytes nofun
    cases hn

end StoryAtlas.Proofs
