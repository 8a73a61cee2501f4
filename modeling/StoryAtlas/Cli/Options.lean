import StoryAtlas.Number.Whole
import StoryAtlas.Text.Quoted
import StoryAtlas.Text.Split

/-!
# Command-line options

Options are long, may be shortened as long as only one option is meant, and take their value from
the same argument behind an equals sign or from the next one. All arguments are looked at before
any of them is taken, so that an option that could mean several is told first. There are no
arguments besides options: whatever is left over is an error in the end.
-/

namespace StoryAtlas.Cli

/-- The options of the program. -/
inductive Flag where
  | help
  | projectRoot
  | dataDir
  | maxFileBytes
  | maxResponseBytes
  | maxWorkers
  | skipInitialBuild
  deriving DecidableEq, Repr

/-- The long name of an option. -/
def Flag.long : Flag → String
  | help => "--help"
  | projectRoot => "--project-root"
  | dataDir => "--data-dir"
  | maxFileBytes => "--max-file-bytes"
  | maxResponseBytes => "--max-total-bytes-per-response"
  | maxWorkers => "--max-workers"
  | skipInitialBuild => "--skip-initial-build"

/-- An option as messages name it: with its short name, if it has one. -/
def Flag.shown : Flag → String
  | help => "-h/--help"
  | flag => flag.long

/-- The option takes a value. -/
def Flag.takesValue : Flag → Bool
  | help => false
  | skipInitialBuild => false
  | _ => true

/-- All options. -/
def Flag.all : List Flag :=
  [help, projectRoot, dataDir, maxFileBytes, maxResponseBytes, maxWorkers, skipInitialBuild]

/-- What can be wrong with the arguments. -/
inductive UsageError where
  | ambiguous (given : String) (candidates : List String)
  | expectedValue (flag : Flag)
  | ignoredValue (flag : Flag) (value : String)
  | notWhole (flag : Flag) (value : String)
  | unrecognized (arguments : List String)
  deriving DecidableEq, Repr

/-- The wording of a usage error. -/
def UsageError.message : UsageError → String
  | ambiguous given candidates =>
    "ambiguous option: " ++ given ++ " could match " ++ String.intercalate ", " candidates
  | expectedValue flag => "argument " ++ flag.shown ++ ": expected one argument"
  | ignoredValue flag value =>
    "argument " ++ flag.shown ++ ": ignored explicit argument " ++ Text.quoted value
  | notWhole flag value =>
    "argument " ++ flag.shown ++ ": invalid int value: " ++ Text.quoted value
  | unrecognized arguments => "unrecognized arguments: " ++ String.intercalate " " arguments

/-- What an argument is: an option, perhaps with a value behind an equals sign, the short option
for help with more letters behind it, an option that does not exist, a plain text, or the mark
behind which there are only plain texts. -/
inductive Word where
  | option (flag : Flag) (value : Option String)
  | shortHelp (more : List Char)
  | unknown
  | plain
  | mark
  deriving DecidableEq, Repr

/-- What stands before and behind the first equals sign. -/
def splitValue (cs : List Char) : List Char × Option String :=
  match cs.dropWhile (· != '=') with
  | [] => (cs, none)
  | _ :: value => (cs.takeWhile (· != '='), some (String.ofList value))

/-- A decimal digit of any script. -/
def isDigit (c : Char) : Bool :=
  (Text.digitValue? c).isSome

/-- A negative number: digits, with or without a point among or before them, and a line feed at most
behind them. -/
def looksNegative (cs : List Char) : Bool :=
  let body := if cs.getLast? = some '\n' then cs.dropLast else cs
  match body with
  | '-' :: rest =>
    match rest.dropWhile isDigit with
    | [] => !rest.isEmpty
    | '.' :: fraction => !fraction.isEmpty && fraction.all isDigit
    | _ => false
  | _ => false

/-- An argument with a dash in front that names no option. -/
def strayWord (cs : List Char) : Word :=
  if looksNegative cs || cs.contains ' ' then .plain else .unknown

/-- An argument with two dashes in front and more behind them. -/
def longWord (cs : List Char) : Except UsageError Word :=
  let (name, value) := splitValue cs
  match Flag.all.find? fun flag => flag.long.toList == name with
  | some flag => .ok (.option flag value)
  | none =>
    match Flag.all.filter fun flag => name.isPrefixOf flag.long.toList with
    | [] => .ok (strayWord cs)
    | [flag] => .ok (.option flag value)
    | flags => .error (.ambiguous (String.ofList cs) (flags.map Flag.long))

/-- Looks at one argument. -/
def wordOf (argument : String) : Except UsageError Word :=
  match argument.toList with
  | ['-', '-'] => .ok .mark
  | '-' :: '-' :: cs => longWord ('-' :: '-' :: cs)
  | ['-', 'h'] => .ok (.option .help none)
  | '-' :: 'h' :: '=' :: value => .ok (.option .help (some (String.ofList value)))
  | '-' :: 'h' :: more => .ok (.shortHelp more)
  | ['-'] => .ok .plain
  | '-' :: cs => .ok (strayWord ('-' :: cs))
  | _ => .ok .plain

/-- Looks at all arguments; behind the mark they are plain. -/
def wordsOf : List String → Except UsageError (List (String × Word))
  | [] => .ok []
  | argument :: rest =>
    match wordOf argument with
    | .error e => .error e
    | .ok .mark => .ok ((argument, .mark) :: rest.map fun a => (a, .plain))
    | .ok word =>
      match wordsOf rest with
      | .error e => .error e
      | .ok words => .ok ((argument, word) :: words)

/-- The values of the options. -/
structure Options where
  projectRoot : String
  dataDir : Option String
  maxFileBytes : Option Int
  maxResponseBytes : Option Int
  maxWorkers : Option Int
  skipInitialBuild : Bool
  deriving DecidableEq, Repr, Inhabited

/-- The values where no option is given. -/
def Options.default : Options := ⟨".", none, none, none, none, false⟩

/-- A request for help ends the reading of options. -/
inductive Invocation where
  | help
  | run (options : Options)
  deriving DecidableEq, Repr

/-- Sets the value of an option that takes one. -/
def Options.set (options : Options) (flag : Flag) (value : String) : Except UsageError Options :=
  match flag, Number.wholeOf? value with
  | .projectRoot, _ => .ok { options with projectRoot := value }
  | .dataDir, _ => .ok { options with dataDir := some value }
  | .maxFileBytes, some i => .ok { options with maxFileBytes := some i }
  | .maxResponseBytes, some i => .ok { options with maxResponseBytes := some i }
  | .maxWorkers, some i => .ok { options with maxWorkers := some i }
  | .help, _ => .ok options
  | .skipInitialBuild, _ => .ok options
  | flag, none => .error (.notWhole flag value)

/-- The letters behind the short option for help: more of the same are help, too, and a dash or a
value is ignored, which is an error. -/
def afterShortHelp : List Char → Except UsageError Invocation
  | [] => .ok .help
  | '-' :: cs => .error (.ignoredValue .help (String.ofList ('-' :: cs)))
  | 'h' :: '=' :: value => .error (.ignoredValue .help (String.ofList value))
  | 'h' :: cs => afterShortHelp cs
  | _ :: _ => .ok .help

/-- Takes the arguments one after the other; `extra` are those left over so far, the last first. -/
def take (options : Options) (extra : List String) :
    List (String × Word) → Except UsageError Invocation
  | [] => if extra.isEmpty then .ok (.run options) else .error (.unrecognized extra.reverse)
  | (argument, word) :: rest =>
    match word with
    | .plain => take options (argument :: extra) rest
    | .mark => take options (argument :: extra) rest
    | .unknown => take options (argument :: extra) rest
    | .shortHelp more => afterShortHelp more
    | .option flag (some value) =>
      if flag.takesValue then
        match options.set flag value with
        | .error e => .error e
        | .ok options => take options extra rest
      else .error (.ignoredValue flag value)
    | .option .help none => .ok .help
    | .option .skipInitialBuild none => take { options with skipInitialBuild := true } extra rest
    | .option flag none =>
      match rest with
      | (value, .plain) :: rest =>
        match options.set flag value with
        | .error e => .error e
        | .ok options => take options extra rest
      | _ => .error (.expectedValue flag)

/-- Reads the arguments of the program. -/
def readArguments (arguments : List String) : Except UsageError Invocation :=
  match wordsOf arguments with
  | .error e => .error e
  | .ok words => take Options.default [] words

end StoryAtlas.Cli
