import Mathlib.Tactic.Lemma
import StoryAtlas.Server.Dispatch

/-!
# What becomes of a request

A payload is refused if its id cannot be rendered. Otherwise it takes its id, and it is answered
whether or not it is well-formed, with a record of the outcome. A line of input is a payload, no
JSON, or refused by the reader.
-/

namespace StoryAtlas.Proofs
open StoryAtlas.Disk

/-- The payload takes an id and is read as the request. -/
def ReadsAs (session : Session) (payload : Json) (request : Request) : Prop :=
  ∃ id used, chooseId session.usedIds payload = .ok (id, used) ∧
    Request.read id payload = .ok request

/-- What a server makes of a payload. -/
inductive Handled (session : Session) (now : Moment) (payload : Json) :
    Session × Except Fault Reply → Prop
  | refused (refusal : Json.Refusal) (hid : chooseId session.usedIds payload = .error refusal) :
      Handled session now payload (session, .error (.json refusal))
  | malformed (id : String) (used : Nat) (error : RequestError)
      (hid : chooseId session.usedIds payload = .ok (id, used))
      (hread : Request.read id payload = .error error) :
      Handled session now payload
        (Session.audit { session with usedIds := used } now "invalid_request" [] []
          (.failure id error.code error.message))
  | answered (id : String) (used : Nat) (request : Request)
      (hid : chooseId session.usedIds payload = .ok (id, used))
      (hread : Request.read id payload = .ok request) :
      Handled session now payload
        (Session.audit (Session.answer { session with usedIds := used } now request).1 now
          request.tool (keptArguments request.arguments) request.arguments
          (Session.answer { session with usedIds := used } now request).2)

lemma handled_handlePayload (session : Session) (now : Moment) (payload : Json) :
    Handled session now payload (session.handlePayload now payload) := by
  unfold Session.handlePayload
  split
  · next refusal hid => exact .refused refusal hid
  next id used hid =>
  dsimp only
  split
  · next error hread => exact .malformed id used error hid hread
  · next request hread => exact .answered id used request hid hread

/-- What a server makes of a payload as it is spelled. -/
inductive HandledSpelled (session : Session) (now : Moment) (spelled : RawJson) :
    Session × Except Fault Reply → Prop
  | payload (payload : Json) (htext : spelled.toJson? = some payload) :
      HandledSpelled session now spelled (session.handlePayload now payload)
  | halfPair (htext : spelled.toJson? = none) :
      HandledSpelled session now spelled
        ({ session with usedIds := session.usedIds + if spelled.bringsId then 0 else 1 },
          .error (.json .halfPair))

lemma handledSpelled_handleSpelled (session : Session) (now : Moment) (spelled : RawJson) :
    HandledSpelled session now spelled (session.handleSpelled now spelled) := by
  unfold Session.handleSpelled
  split
  · next payload htext => exact .payload payload htext
  · next htext => exact .halfPair htext

/-- What a server makes of a line of input. -/
inductive HandledLine (session : Session) (now : Moment) (line : String) :
    Session × Except Fault Reply → Prop
  | spelled (spelled : RawJson)
      (hparse : Json.parseChars (.within now.lineRoom) line.toList = .ok spelled) :
      HandledLine session now line (session.handleSpelled now spelled)
  | refused (refusal : Json.Refusal)
      (hparse : Json.parseChars (.within now.lineRoom) line.toList = .error (.refused refusal)) :
      HandledLine session now line (session, .error (.json refusal))
  | notJson
      (hparse : Json.parseChars (.within now.lineRoom) line.toList = .error .notJson) :
      HandledLine session now line
        (Session.audit { session with usedIds := session.usedIds + 1 } now "invalid_json" []
          (Fields.ofList [("raw_line_length", .int line.length)])
          (.failure (fallbackId (session.usedIds + 1)) "INVALID_JSON"
            "Request must be valid JSON."))

lemma handledLine_handleLine (session : Session) (now : Moment) (line : String) :
    HandledLine session now line (session.handleLine now line) := by
  unfold Session.handleLine
  split
  · next spelled hparse => exact .spelled spelled hparse
  · next refusal hparse => exact .refused refusal hparse
  · next hparse => exact .notJson hparse

/-! ### Lines that are read -/

section Lines

variable {bounds : Json.Bounds} {line : String} {spelled : RawJson}

lemma parse_eq_ok {payload : Json} (h : Json.parseChars bounds line.toList = .ok spelled)
    (htext : spelled.toJson? = some payload) : Json.parse bounds line = .ok payload := by
  simp only [Json.parse, h, htext]

lemma parse_eq_halfPair (h : Json.parseChars bounds line.toList = .ok spelled)
    (htext : spelled.toJson? = none) : Json.parse bounds line = .error (.refused .halfPair) := by
  simp only [Json.parse, h, htext]

lemma parse_eq_error {error : Json.ReadError}
    (h : Json.parseChars bounds line.toList = .error error) :
    Json.parse bounds line = .error error := by
  simp only [Json.parse, h]

end Lines

/-- A moment at which the stack has room for much. -/
def sampleMoment : Moment :=
  ⟨"", 0, 900, 900⟩

end StoryAtlas.Proofs
