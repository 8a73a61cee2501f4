import StoryAtlas.Json.Writer

/-!
# Replies

Every request is answered by one reply: the result of a tool with its warnings, an error, or a
refusal, which says what was refused and what can be done about it.
-/

namespace StoryAtlas

/-- The error of a reply. -/
structure ReplyError where
  code : String
  message : String
  deriving DecidableEq, Repr, Inhabited

/-- A reply. -/
structure Reply where
  requestId : String
  ok : Bool
  result : Fields
  warnings : List String
  blocked : Bool
  error : Option ReplyError
  deriving Inhabited

namespace Reply

/-- The reply with a result. -/
def success (requestId : String) (result : Fields) (warnings : List String) : Reply :=
  ⟨requestId, true, result, warnings, false, none⟩

/-- The reply with an error. -/
def failure (requestId code message : String) : Reply :=
  ⟨requestId, false, [], [], false, some ⟨code, message⟩⟩

/-- The reply with a refusal, whose reason is also the message of the error. -/
def refusal (requestId code reason hint : String) : Reply :=
  ⟨requestId, false, Fields.ofList [("reason", .str reason), ("hint", .str hint)], [], true,
    some ⟨code, reason⟩⟩

/-- The reply as a JSON value. -/
def toJson (reply : Reply) : Json :=
  let fields :=
    [("request_id", .str reply.requestId), ("ok", .bool reply.ok), ("result", .obj reply.result),
     ("warnings", .strings reply.warnings), ("blocked", .bool reply.blocked)]
  match reply.error with
  | none => .object fields
  | some error =>
    .object (fields ++
      [("error", .object [("code", .str error.code), ("message", .str error.message)])])

/-- The line on which a reply is sent. -/
def line (reply : Reply) : String :=
  reply.toJson.render

/-- The size of a reply in bytes. -/
def size (reply : Reply) : Nat :=
  reply.line.utf8ByteSize

end Reply

/-- The field in which a tool hands its warnings over. -/
def warningsKey : String := "__warnings__"

/-- The texts in an array of warnings; anything else is no warning. -/
def warningTexts : Option Json → List String
  | some (.arr items) => items.filterMap fun | .str s => some s | _ => none
  | _ => []

/-- Takes the warnings out of the result of a tool. -/
def splitWarnings (result : Fields) : List String × Fields :=
  (warningTexts (result.get? warningsKey), result.erase warningsKey)

end StoryAtlas
