import StoryAtlas.Config.Basic
import StoryAtlas.Toml.Reader

/-!
# Loading the configuration

The settings of a project stand in a TOML file at its root, which may be missing. The directory for
the logs is resolved last, so that a wrong setting is told before a wrong path.
-/

namespace StoryAtlas

open StoryAtlas.Disk

/-- What can stop the program before it serves: a wrong setting, a settings file that is not TOML,
or the disk. -/
inductive StartError where
  | config (error : ConfigError)
  | badToml
  | disk (fault : Fault)
  deriving DecidableEq, Repr

namespace Config

/-- The default configuration of a project. -/
def defaultAt (disk : Disk) (projectRoot : Path) : Except Fault Config :=
  match disk.resolve projectRoot with
  | .ok root => .ok (default root)
  | .error e => .error e

/-- The settings file of a project; without one there are no settings. -/
def readSettings (disk : Disk) (projectRoot : Path) : Except StartError Settings :=
  let file := projectRoot.child fileName
  match disk.hasFile file with
  | .error e => .error (.disk e)
  | .ok false => .ok []
  | .ok true =>
    match disk.readText file with
    | .error e => .error (.disk e)
    | .ok text =>
      match Toml.parse? text with
      | none => .error .badToml
      | some settings => .ok settings

/-- Lays settings and overrides over a configuration. -/
def merge (disk : Disk) (base : Config) (settings : Settings) (overrides : Overrides) :
    Except StartError Config :=
  match (base.withSettings settings).bind (·.withNumbers overrides) with
  | .error e => .error (.config e)
  | .ok config =>
    match disk.resolve (overrides.dataDir.getD config.dataDir) with
    | .error e => .error (.disk e)
    | .ok dataDir => .ok { config with dataDir := dataDir }

/-- The configuration of a project with overrides. -/
def load (disk : Disk) (projectRoot : Path) (overrides : Overrides) : Except StartError Config :=
  match defaultAt disk projectRoot with
  | .error e => .error (.disk e)
  | .ok base =>
    match readSettings disk base.projectRoot with
    | .error e => .error e
    | .ok settings => merge disk base settings overrides

end Config

end StoryAtlas
