import StoryAtlas.Server.Request
import StoryAtlas.Server.Tool

/-!
# Answering requests

Every request, well-formed or not, is answered by one reply and leaves one record in the audit
journal. A tool that fails does not stop the server: its failure becomes the reply. Only a record
that cannot be written does, and a request beyond the limits of the interpreter: it is not answered,
it leaves no record and takes no id. Of a request with half a surrogate pair in it no more is told
than whether it takes an id.
-/

namespace StoryAtlas

open StoryAtlas.Disk

/-- The reply for a failure. -/
def ToolFailure.reply (requestId : String) : ToolFailure → Reply
  | path refusal => .refusal requestId "PATH_BLOCKED" refusal.reason refusal.hint
  | policy refusal => .refusal requestId "POLICY_BLOCKED" refusal.reason refusal.hint
  | tool error => .failure requestId error.code error.message
  | disk _ =>
    .failure requestId "INTERNAL_ERROR" "Unhandled server error while executing tool."

namespace Session

/-- The reply with the result of a tool, unless it is too large. -/
def replyWith (session : Session) (requestId : String) (result : Fields) : Reply :=
  let (warnings, result) := splitWarnings result
  let reply := Reply.success requestId result warnings
  if session.config.limits.maxResponseBytes < (reply.size : Int) then
    (ToolFailure.policy .responseTooLarge).reply requestId
  else reply

/-- Runs the tool of a request and makes the reply. -/
def answer (session : Session) (now : Moment) (request : Request) : Session × Reply :=
  match Tool.all.get? request.tool with
  | none =>
    (session, .failure request.id Toolbox.unknownCode (Toolbox.unknownMessage request.tool))
  | some tool =>
    match session.run now tool request.arguments with
    | (session, .ok result) => (session, session.replyWith request.id result)
    | (session, .error failure) => (session, failure.reply request.id)

/-- Writes the record of a request. Of its arguments, those in `given` are repeated as the client
has given them. -/
def audit (session : Session) (now : Moment) (tool : String) (given arguments : Fields)
    (reply : Reply) : Session × Except Fault Reply :=
  let record : AuditRecord :=
    { timestamp := now.timestamp
      requestId := reply.requestId
      tool := tool
      ok := reply.ok
      blocked := reply.blocked
      errorCode := reply.error.map ReplyError.code
      metadata := describeArguments arguments }
  match Journal.append now.logRoom session.disk session.auditFile given record.toJson with
  | .error e => (session, .error e)
  | .ok disk => ({ session with disk := disk }, .ok reply)

/-- Answers a payload. -/
def handlePayload (session : Session) (now : Moment) (payload : Json) :
    Session × Except Fault Reply :=
  match chooseId session.usedIds payload with
  | .error refusal => (session, .error (.json refusal))
  | .ok (id, used) =>
    let session := { session with usedIds := used }
    match Request.read id payload with
    | .error error =>
      session.audit now "invalid_request" [] [] (.failure id error.code error.message)
    | .ok request =>
      let (session, reply) := session.answer now request
      session.audit now request.tool (keptArguments request.arguments) request.arguments reply

/-- Answers a payload as it is spelled. If half a surrogate pair is spelled in it, it takes a number
unless it brings an id along, and its reply is left open. -/
def handleSpelled (session : Session) (now : Moment) (spelled : RawJson) :
    Session × Except Fault Reply :=
  match spelled.toJson? with
  | some payload => session.handlePayload now payload
  | none =>
    let used := session.usedIds + if spelled.bringsId then 0 else 1
    ({ session with usedIds := used }, .error (.json .halfPair))

/-- Answers a line of input, without its line ending. -/
def handleLine (session : Session) (now : Moment) (line : String) :
    Session × Except Fault Reply :=
  match Json.parseChars (.within now.lineRoom) line.toList with
  | .ok spelled => session.handleSpelled now spelled
  | .error (.refused refusal) => (session, .error (.json refusal))
  | .error .notJson =>
    let id := fallbackId (session.usedIds + 1)
    let session := { session with usedIds := session.usedIds + 1 }
    session.audit now "invalid_json" [] (Fields.ofList [("raw_line_length", .int line.length)])
      (.failure id "INVALID_JSON" "Request must be valid JSON.")

/-- Answers lines of input one after the other and collects the lines of output. Blank lines are
passed over. -/
def serveLines (session : Session) (clock : Clock) :
    List String → Session × Except Fault (List String)
  | [] => (session, .ok [])
  | line :: lines =>
    let line := Text.trim line
    if line = "" then session.serveLines clock lines
    else
      match session.handleLine (clock 0) line with
      | (session, .error e) => (session, .error e)
      | (session, .ok reply) =>
        match session.serveLines clock.tail lines with
        | (session, .error e) => (session, .error e)
        | (session, .ok replies) => (session, .ok (reply.line :: replies))

/-- Answers a whole input. -/
def serve (session : Session) (clock : Clock) (input : String) :
    Session × Except Fault (List String) :=
  session.serveLines clock (Text.splitText '\n' input)

end Session

end StoryAtlas
