import StoryAtlas.Index.Divert
import StoryAtlas.Log.Metadata
import StoryAtlas.Server.Confine
import StoryAtlas.Server.Reply
import StoryAtlas.Server.Session
import StoryAtlas.Server.Toolbox
import StoryAtlas.Story.Cursor

/-!
# Tools

The tools of the server: what they take, what they answer, and how they fail. A tool checks its
arguments in a fixed order, the path first.
-/

namespace StoryAtlas

open StoryAtlas.Disk StoryAtlas.Story

/-- The tools. -/
inductive Tool where
  | status
  | buildIndex
  | update
  | outline
  | includeScope
  | complete
  | definition
  | auditLog
  deriving DecidableEq, Repr

/-- The name of a tool. -/
def Tool.name : Tool → String
  | status => "ink.status"
  | buildIndex => "ink.build_index"
  | update => "ink.update"
  | outline => "ink.outline"
  | includeScope => "ink.include_scope"
  | complete => "ink.complete"
  | definition => "ink.definition"
  | auditLog => "ink.audit_log"

/-- All tools by their names. -/
def Tool.all : Toolbox Tool :=
  ⟨[.status, .buildIndex, .update, .outline, .includeScope, .complete, .definition,
    .auditLog].map fun tool => (tool.name, tool)⟩

/-- What a limit refuses. -/
inductive PolicyRefusal where
  | textTooLarge
  | responseTooLarge
  deriving DecidableEq, Repr

/-- The wording of the reason. -/
def PolicyRefusal.reason : PolicyRefusal → String
  | textTooLarge => "Text exceeds max_file_bytes limit."
  | responseTooLarge => "Response exceeds max_total_bytes_per_response limit."

/-- What the sender can do about it. -/
def PolicyRefusal.hint : PolicyRefusal → String
  | textTooLarge => "Split the story into included files or raise limits.max_file_bytes."
  | responseTooLarge => "Request a smaller file outline or raise the response limit."

/-- Refuses a text that is larger than a file may be. -/
def checkTextSize (maxFileBytes : Int) (text : String) : Except PolicyRefusal Unit :=
  if maxFileBytes < (text.utf8ByteSize : Int) then .error .textTooLarge else .ok ()

/-- What can be wrong with the arguments of a tool, and a path that is not indexed. -/
inductive ToolError where
  | badPath (tool : Tool)
  | badLine (tool : Tool)
  | badText
  | badTriggerText
  | badName
  | noName
  | notIndexed (path : String)
  deriving DecidableEq, Repr

/-- The code of the error in a reply. -/
def ToolError.code : ToolError → String
  | notIndexed _ => "NOT_INDEXED"
  | _ => "INVALID_PARAMS"

/-- The wording of the error. -/
def ToolError.message : ToolError → String
  | badPath tool => tool.name ++ " path must be a non-empty string."
  | badLine tool => tool.name ++ " line must be a non-negative integer."
  | badText => "ink.update text must be a string."
  | badTriggerText => "ink.complete prefix must be a string when provided."
  | badName => "ink.definition name must be a non-empty string."
  | noName => "ink.definition requires name, or line_text with an integer column."
  | notIndexed path => "ink.outline path is not indexed: " ++ path

/-- How a tool fails: its path or a limit refuses the request, its arguments are wrong, or the disk
fails. -/
inductive ToolFailure where
  | path (refusal : PathRefusal)
  | policy (refusal : PolicyRefusal)
  | tool (error : ToolError)
  | disk (fault : Fault)
  deriving DecidableEq, Repr

/-- The path argument. -/
def pathArgument (tool : Tool) (arguments : Fields) : Except ToolFailure String :=
  match arguments.get? "path" with
  | some (.str s) => if s = "" then .error (.tool (.badPath tool)) else .ok s
  | _ => .error (.tool (.badPath tool))

/-- The line argument. -/
def lineArgument (tool : Tool) (arguments : Fields) : Except ToolFailure Int :=
  match arguments.get? "line" with
  | some (.int i) => if i < 0 then .error (.tool (.badLine tool)) else .ok i
  | _ => .error (.tool (.badLine tool))

/-- The text argument of an update. -/
def textArgument (arguments : Fields) : Except ToolFailure String :=
  match arguments.get? "text" with
  | some (.str s) => .ok s
  | _ => .error (.tool .badText)

/-- The text before the cursor that may come with a completion. -/
def triggerArgument (arguments : Fields) : Except ToolFailure (Option String) :=
  match arguments.get? "prefix" with
  | none => .ok none
  | some .null => .ok none
  | some (.str s) => .ok (some s)
  | some _ => .error (.tool .badTriggerText)

/-- The name that a definition is asked for: a name that is given without blanks around it, or the
divert target at a column of a line, where there may be none. -/
def nameArgument (arguments : Fields) : Except ToolFailure (Option String) :=
  match (arguments.get? "name").getD .null with
  | .null =>
    match arguments.get? "line_text", arguments.get? "column" with
    | some (.str line), some (.int column) => .ok (divertNameAt line column)
    | _, _ => .error (.tool .noName)
  | .str s => if Text.isBlankText s then .error (.tool .badName) else .ok (some (Text.trim s))
  | _ => .error (.tool .badName)

/-- The number of records that are asked for; truth values count as one and zero. -/
def limitArgument (arguments : Fields) : Int :=
  let asked : Int :=
    match arguments.get? "limit" with
    | some (.int i) => i
    | some (.bool b) => if b then 1 else 0
    | _ => Journal.defaultLimit
  min (max asked 1) 500

/-- The time from which on records are asked for. -/
def sinceArgument (arguments : Fields) : Option String :=
  match arguments.get? "since" with
  | some (.str s) => some s
  | _ => none

namespace Session

/-- The path that a request names, as the index knows it. -/
def pathFor (session : Session) (tool : Tool) (arguments : Fields) : Except ToolFailure Path :=
  match pathArgument tool arguments with
  | .error e => .error e
  | .ok candidate =>
    match confine session.disk session.config.projectRoot candidate with
    | .error (.refused refusal) => .error (.path refusal)
    | .error (.disk fault) => .error (.disk fault)
    | .ok p => .ok (session.index.key p)

/-- The state of the index and the configuration. -/
def statusResult (session : Session) : Fields :=
  let status := session.index.status
  Fields.ofList
    [("project_root", .str session.config.projectRoot.render),
     ("index_status", .str status.label),
     ("last_build_timestamp", .ofOption status.lastBuild),
     ("indexed_file_count", .int status.fileCount),
     ("indexed_knot_count", .int status.knotCount),
     ("effective_config", session.config.toJson)]

/-- The result of a build, with a warning for each file that could not be read. -/
def buildResult (session : Session) (report : Report) : Fields :=
  let fields :=
    [("indexed", .int report.indexed.length), ("failed", .int report.failures.length),
     ("duration_ms", .int report.durationMs), ("timestamp", .str report.timestamp)]
  if report.failures.isEmpty then Fields.ofList fields
  else
    Fields.ofList (fields ++ [(warningsKey, .strings (report.failures.map fun failure =>
      "Skipped " ++ session.display failure.path ++ ": " ++ failure.reason))])

/-- The result of an update. -/
def updateResult (session : Session) (file : StoryFile) : Fields :=
  Fields.ofList
    [("path", .str (session.display file.path)),
     ("line_count", .int file.outline.lineCount),
     ("knots", .strings (file.outline.knots.filterMap Knot.name)),
     ("includes", .strings (file.includes.map session.display))]

/-- A label in a result. -/
def labelJson (label : Label) : Json :=
  .object [("name", .str label.name), ("line", .int label.line)]

/-- A stitch in a result. -/
def stitchJson (stitch : Stitch) : Json :=
  .object
    [("name", .ofOption stitch.name), ("start_line", .int stitch.start),
     ("end_line", .int stitch.stop), ("labels", .arr (stitch.labels.map labelJson))]

/-- A knot in a result. -/
def knotJson (knot : Knot) : Json :=
  .object
    [("name", .ofOption knot.name), ("start_line", .int knot.start), ("end_line", .int knot.stop),
     ("is_function", .bool knot.isFunction), ("stitches", .arr (knot.stitches.map stitchJson))]

/-- The outline of a file. -/
def outlineResult (session : Session) (file : StoryFile) : Fields :=
  Fields.ofList
    [("path", .str (session.display file.path)),
     ("line_count", .int file.outline.lineCount),
     ("includes", .strings (file.includes.map session.display)),
     ("knots", .arr (file.outline.knots.map knotJson))]

/-- The files in scope of a path. -/
def scopeResult (session : Session) (p : Path) : Fields :=
  Fields.ofList
    [("path", .str (session.display p)),
     ("scope", .strings ((session.index.includeScope p).map session.display))]

/-- The completions at a line, if the text before the cursor calls for them. -/
def completeResult (session : Session) (p : Path) (line : Int) (before : Option String) : Fields :=
  if before.all isDivertTrigger then
    Fields.ofList
      [("triggered", .bool true),
       ("candidates", .arr ((session.index.completions p line).map fun candidate =>
         .object [("name", .str candidate.name), ("kind", .str candidate.kind)]))]
  else Fields.ofList [("triggered", .bool false), ("candidates", .arr [])]

/-- The definition of a name at a line. -/
def definitionResult (session : Session) (p : Path) (line : Int) (name : Option String) : Fields :=
  match name.bind fun name => session.index.definition? name p line with
  | none =>
    Fields.ofList
      [("found", .bool false), ("name", .ofOption name), ("path", .null), ("line", .null)]
  | some location =>
    Fields.ofList
      [("found", .bool true), ("name", .ofOption name),
       ("path", .str (session.display location.path)), ("line", .int location.line)]

/-- The records of the audit journal. A result is made of texts, so that there is none for records
with half a surrogate pair. -/
def entriesResult (records : List RawFields) : Except ToolFailure Fields :=
  match RawJson.itemsToJson? (records.map RawJson.obj) with
  | none => .error (.disk (.json .halfPair))
  | some entries => .ok (Fields.ofList [("entries", .arr entries)])

/-- Runs an update. -/
def runUpdate (session : Session) (now : Moment) (arguments : Fields) :
    Session × Except ToolFailure Fields :=
  match session.pathFor .update arguments with
  | .error e => (session, .error e)
  | .ok p =>
    match textArgument arguments with
    | .error e => (session, .error e)
    | .ok text =>
      match checkTextSize session.config.limits.maxFileBytes text with
      | .error refusal => (session, .error (.policy refusal))
      | .ok () =>
        match session.update now p text with
        | (session, .ok file) => (session, .ok (session.updateResult file))
        | (session, .error fault) => (session, .error (.disk fault))

/-- Runs a build. -/
def runBuild (session : Session) (now : Moment) : Session × Except ToolFailure Fields :=
  match session.build now with
  | (session, .ok report) => (session, .ok (session.buildResult report))
  | (session, .error fault) => (session, .error (.disk fault))

/-- Answers a request for an outline. -/
def askOutline (session : Session) (arguments : Fields) : Except ToolFailure Fields :=
  match session.pathFor .outline arguments with
  | .error e => .error e
  | .ok p =>
    match session.index.get? p with
    | none => .error (.tool (.notIndexed (session.display p)))
    | some file => .ok (session.outlineResult file)

/-- Answers a request for a scope. -/
def askScope (session : Session) (arguments : Fields) : Except ToolFailure Fields :=
  match session.pathFor .includeScope arguments with
  | .error e => .error e
  | .ok p => .ok (session.scopeResult p)

/-- Answers a request for completions. -/
def askCompletions (session : Session) (arguments : Fields) : Except ToolFailure Fields :=
  match session.pathFor .complete arguments with
  | .error e => .error e
  | .ok p =>
    match lineArgument .complete arguments with
    | .error e => .error e
    | .ok line =>
      match triggerArgument arguments with
      | .error e => .error e
      | .ok before => .ok (session.completeResult p line before)

/-- Answers a request for a definition. -/
def askDefinition (session : Session) (arguments : Fields) : Except ToolFailure Fields :=
  match session.pathFor .definition arguments with
  | .error e => .error e
  | .ok p =>
    match lineArgument .definition arguments with
    | .error e => .error e
    | .ok line =>
      match nameArgument arguments with
      | .error e => .error e
      | .ok name => .ok (session.definitionResult p line name)

/-- The records of the audit journal that are asked for, as they are spelled in it. -/
def auditEntries (session : Session) (now : Moment) (arguments : Fields) :
    Except Fault (List RawFields) :=
  Journal.read now.logRoom session.disk session.auditFile (sinceArgument arguments)
    (limitArgument arguments)

/-- Answers a request for records of the audit journal. -/
def askAuditLog (session : Session) (now : Moment) (arguments : Fields) :
    Except ToolFailure Fields :=
  match session.auditEntries now arguments with
  | .error fault => .error (.disk fault)
  | .ok records => entriesResult records

/-- Runs a tool. -/
def run (session : Session) (now : Moment) (tool : Tool) (arguments : Fields) :
    Session × Except ToolFailure Fields :=
  match tool with
  | .status => (session, .ok session.statusResult)
  | .buildIndex => session.runBuild now
  | .update => session.runUpdate now arguments
  | .outline => (session, session.askOutline arguments)
  | .includeScope => (session, session.askScope arguments)
  | .complete => (session, session.askCompletions arguments)
  | .definition => (session, session.askDefinition arguments)
  | .auditLog => (session, session.askAuditLog now arguments)

end Session

end StoryAtlas
