import StoryAtlas.Config.Setting
import StoryAtlas.Index.Discovery
import StoryAtlas.Json.Basic
import StoryAtlas.Text.Blank

/-!
# Configuration

The configuration of a project is made in three layers: defaults, the project's own settings, and
overrides from the start of the program. A later layer wins, but every value that is given is
checked, also where a later layer replaces it.
-/

namespace StoryAtlas

/-- The limits on the size of files and responses, in bytes. -/
structure Limits where
  maxFileBytes : Int
  maxResponseBytes : Int
  deriving DecidableEq, Repr, Inhabited

/-- The limits where nothing else is said. -/
def Limits.default : Limits := ⟨2 * 1024 * 1024, 512 * 1024⟩

/-- A complete configuration. -/
structure Config where
  projectRoot : Path
  dataDir : Path
  limits : Limits
  filter : FileFilter
  maxWorkers : Int
  deriving DecidableEq, Repr, Inhabited

/-- What is given at the start of the program. A number that is not given is null. -/
structure Overrides where
  dataDir : Option Path
  maxFileBytes : Setting
  maxResponseBytes : Setting
  maxWorkers : Setting
  deriving Repr, Inhabited

/-- Nothing is overridden. -/
def Overrides.none : Overrides := ⟨.none, .null, .null, .null⟩

/-- What can be wrong with settings. -/
inductive ConfigError where
  | notTable (name : String)
  | notPositive (field : String)
  | aboveCap (field : String) (cap : Int)
  | notStrings (field : String)
  | blankExtension
  deriving DecidableEq, Repr

/-- The wording of a configuration error. -/
def ConfigError.message : ConfigError → String
  | notTable name => "Config section '" ++ name ++ "' must be a table."
  | notPositive field => "Config field '" ++ field ++ "' must be a positive integer."
  | aboveCap field cap => "Config field '" ++ field ++ "' must be <= " ++ toString cap ++ "."
  | notStrings field => "Config field '" ++ field ++ "' must be a list of strings."
  | blankExtension => "Config field 'index.include_extensions' must not contain blanks."

namespace Config

/-- The file with the settings of a project. -/
def fileName : String := "ink_index.toml"

/-- The directory for the logs of a project. -/
def dataDirName : String := ".ink_index"

/-- The largest value of `max_file_bytes`. -/
def maxFileBytesCap : Int := 16 * 1024 * 1024

/-- The largest value of `max_total_bytes_per_response`. -/
def maxResponseBytesCap : Int := 4 * 1024 * 1024

/-- The largest value of `max_workers`. -/
def maxWorkersCap : Int := 64

/-- The configuration of a project at a resolved root where nothing else is said. -/
def default (root : Path) : Config where
  projectRoot := root
  dataDir := root.child dataDirName
  limits := Limits.default
  filter :=
    { extensions := [".ink"]
      excludeGlobs := ["**/.git/**", "**/node_modules/**", "**/" ++ dataDirName ++ "/**"] }
  maxWorkers := 8

/-- A section of the settings; one that is missing is empty. -/
def section? (settings : Settings) (name : String) : Except ConfigError Settings :=
  match settings.lookup name with
  | none => .ok []
  | some (.table fields) => .ok fields
  | some _ => .error (.notTable name)

/-- A whole number between one and a cap; null leaves the old value. -/
def capped (field : String) (cap old : Int) : Setting → Except ConfigError Int
  | .null => .ok old
  | .int i =>
    if i < 1 then .error (.notPositive field)
    else if cap < i then .error (.aboveCap field cap)
    else .ok i
  | _ => .error (.notPositive field)

/-- The number at a field of a section. -/
def cappedField (fields : Settings) (name field : String) (cap old : Int) :
    Except ConfigError Int :=
  capped (name ++ "." ++ field) cap old ((fields.lookup field).getD .null)

/-- A list of texts. -/
def stringsOf (field : String) : Setting → Except ConfigError (List String)
  | .list items =>
    if items.all fun item => item.text?.isSome then .ok (items.filterMap Setting.text?)
    else .error (.notStrings field)
  | _ => .error (.notStrings field)

/-- An extension in lower case, without blanks around it and with its dot. -/
def normalExtension? (extension : String) : Option String :=
  let lowered := Text.lower (Text.trim extension)
  if lowered = "" then none
  else if lowered.toList.head? = some '.' then some lowered
  else some ("." ++ lowered)

/-- The normal forms of extensions, none of which may be blank. -/
def normalExtensions (extensions : List String) : Except ConfigError (List String) :=
  match extensions.mapM normalExtension? with
  | some normal => .ok normal
  | none => .error .blankExtension

/-- The extensions that a section gives, or the old ones. -/
def extensionsOf (index : Settings) (old : List String) : Except ConfigError (List String) :=
  match index.lookup "include_extensions" with
  | none => .ok old
  | some value =>
    match stringsOf "index.include_extensions" value with
    | .error e => .error e
    | .ok extensions => normalExtensions extensions

/-- The patterns that a section gives, or the old ones. -/
def globsOf (index : Settings) (old : List String) : Except ConfigError (List String) :=
  match index.lookup "exclude_globs" with
  | none => .ok old
  | some value => stringsOf "index.exclude_globs" value

/-- Lays the settings of a project over a configuration. -/
def withSettings (config : Config) (settings : Settings) : Except ConfigError Config := do
  let limits ← section? settings "limits"
  let index ← section? settings "index"
  let fileBytes ← cappedField limits "limits" "max_file_bytes" maxFileBytesCap
    config.limits.maxFileBytes
  let responseBytes ← cappedField limits "limits" "max_total_bytes_per_response"
    maxResponseBytesCap config.limits.maxResponseBytes
  let workers ← cappedField index "index" "max_workers" maxWorkersCap config.maxWorkers
  let extensions ← extensionsOf index config.filter.extensions
  let globs ← globsOf index config.filter.excludeGlobs
  return { config with
    limits := ⟨fileBytes, responseBytes⟩
    filter := ⟨extensions, globs⟩
    maxWorkers := workers }

/-- Lays the overridden numbers over a configuration. -/
def withNumbers (config : Config) (overrides : Overrides) : Except ConfigError Config := do
  let fileBytes ← capped "overrides.max_file_bytes" maxFileBytesCap
    config.limits.maxFileBytes overrides.maxFileBytes
  let responseBytes ← capped "overrides.max_total_bytes_per_response" maxResponseBytesCap
    config.limits.maxResponseBytes overrides.maxResponseBytes
  let workers ← capped "overrides.max_workers" maxWorkersCap config.maxWorkers
    overrides.maxWorkers
  return { config with limits := ⟨fileBytes, responseBytes⟩, maxWorkers := workers }

/-- The configuration as a JSON value. -/
def toJson (config : Config) : Json :=
  .object
    [("project_root", .str config.projectRoot.render),
     ("data_dir", .str config.dataDir.render),
     ("limits", .object
       [("max_file_bytes", .int config.limits.maxFileBytes),
        ("max_total_bytes_per_response", .int config.limits.maxResponseBytes)]),
     ("index", .object
       [("include_extensions", .strings config.filter.extensions),
        ("exclude_globs", .strings config.filter.excludeGlobs),
        ("max_workers", .int config.maxWorkers)])]

end Config

end StoryAtlas
