import StoryAtlas.Index.Basic
import StoryAtlas.Json.Basic

/-!
# Log records

There is one log of requests and one of what happens to the index. A record is a JSON object.
-/

namespace StoryAtlas

/-- A record of a request and its outcome. -/
structure AuditRecord where
  timestamp : String
  requestId : String
  tool : String
  ok : Bool
  blocked : Bool
  errorCode : Option String
  metadata : Fields
  deriving Inhabited

/-- A record of what happened to the index. -/
structure IndexRecord where
  timestamp : String
  event : String
  path : Option String
  detail : Fields
  deriving Inhabited

/-- The record as a JSON value. -/
def AuditRecord.toJson (record : AuditRecord) : Json :=
  .object
    [("timestamp", .str record.timestamp),
     ("request_id", .str record.requestId),
     ("tool", .str record.tool),
     ("ok", .bool record.ok),
     ("blocked", .bool record.blocked),
     ("error_code", .ofOption record.errorCode),
     ("metadata", .obj record.metadata)]

/-- The record as a JSON value. -/
def IndexRecord.toJson (record : IndexRecord) : Json :=
  .object
    [("timestamp", .str record.timestamp),
     ("event", .str record.event),
     ("path", .ofOption record.path),
     ("detail", .obj record.detail)]

/-- The record of an event at the given time. -/
def Event.record (timestamp : String) : Event → IndexRecord
  | readFailed path reason =>
    ⟨timestamp, "read_failed", some path.render, Fields.ofList [("reason", .str reason)]⟩
  | build indexed failed durationMs =>
    ⟨timestamp, "build", none, Fields.ofList
      [("indexed_file_count", .int indexed), ("failed_file_count", .int failed),
       ("duration_ms", .int durationMs)]⟩
  | update path lineCount =>
    ⟨timestamp, "update", some path.render, Fields.ofList [("line_count", .int lineCount)]⟩
  | remove path => ⟨timestamp, "remove", some path.render, []⟩

end StoryAtlas
