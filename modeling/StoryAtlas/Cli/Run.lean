import StoryAtlas.Cli.Options
import StoryAtlas.Server.Dispatch

/-!
# Running the program

The program reads its options, opens the project, builds the index unless it is told not to, and
answers its input line by line. Wrong options and wrong settings end it with exit code 2 and a
message; a failing disk stops it.
-/

namespace StoryAtlas.Cli

open StoryAtlas.Disk

/-- The name of the program in messages. -/
def programName : String := "ink-index"

/-- The options at a glance. -/
def usageLine : String :=
  "usage: " ++ programName ++ " [-h] [--project-root PROJECT_ROOT] [--data-dir DATA_DIR] " ++
    "[--max-file-bytes MAX_FILE_BYTES] " ++
    "[--max-total-bytes-per-response MAX_TOTAL_BYTES_PER_RESPONSE] " ++
    "[--max-workers MAX_WORKERS] [--skip-initial-build]"

/-- The line for an error in the use of the program. -/
def errorLine (message : String) : String :=
  programName ++ ": error: " ++ message

/-- How a run of the program ends, before or after it has served. -/
inductive Ending where
  | help
  | usage (message : String)
  | stopped (fault : Fault)
  | served (output : List String)
  deriving DecidableEq, Repr

/-- The overrides that the options stand for. -/
def overridesOf (options : Options) (dataDir : Option Path) : Overrides :=
  let number (value : Option Int) : Setting := (value.map Setting.int).getD .null
  ⟨dataDir, number options.maxFileBytes, number options.maxResponseBytes,
    number options.maxWorkers⟩

/-- The directory for logs that the options name. -/
def dataDirOf (disk : Disk) (options : Options) : Except Fault (Option Path) :=
  match options.dataDir with
  | none => .ok none
  | some dir =>
    match disk.resolve (Path.ofString dir) with
    | .error e => .error e
    | .ok dir => .ok (some dir)

/-- The message for an error that is the fault of options or settings; other faults of the disk have
none. -/
def startMessage? : StartError → Option String
  | .config error => some error.message
  | .badToml => some "Invalid TOML."
  | .disk .nulInPath => some (Fault.message .nulInPath)
  | .disk .notUtf8 => some (Fault.message .notUtf8)
  | .disk _ => none

/-- The fault of the disk behind an error without a message. -/
def startEnding (error : StartError) : Ending :=
  match startMessage? error, error with
  | some message, _ => .usage message
  | none, .disk fault => .stopped fault
  | none, _ => .usage ""

/-- Opens the project that the options name. -/
def openWith (disk : Disk) (options : Options) : Except Ending Session :=
  match dataDirOf disk options with
  | .error fault => .error (.stopped fault)
  | .ok dataDir =>
    match Session.openProject disk (Path.ofString options.projectRoot) none
        (overridesOf options dataDir) with
    | .error error => .error (startEnding error)
    | .ok session => .ok session

/-- Opens the project and builds the index unless the options say otherwise. -/
def begin (disk : Disk) (now : Moment) (options : Options) : Except Ending Session :=
  match openWith disk options with
  | .error ending => .error ending
  | .ok session =>
    if options.skipInitialBuild then .ok session
    else
      match session.build now with
      | (_, .error fault) => .error (.stopped fault)
      | (session, .ok _) => .ok session

/-- Runs the program on a whole input. -/
def run (disk : Disk) (clock : Clock) (arguments : List String) (input : String) : Ending :=
  match readArguments arguments with
  | .error e => .usage e.message
  | .ok .help => .help
  | .ok (.run options) =>
    match begin disk (clock 0) options with
    | .error ending => ending
    | .ok session =>
      match session.serve clock.tail input with
      | (_, .ok lines) => .served lines
      | (_, .error fault) => .stopped fault

/-- The exit code of a run that was not stopped. -/
def Ending.exitCode : Ending → Nat
  | help => 0
  | usage _ => 2
  | stopped _ => 1
  | served _ => 0

end StoryAtlas.Cli
