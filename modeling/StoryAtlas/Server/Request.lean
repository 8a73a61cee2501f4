import StoryAtlas.Json.Limits
import StoryAtlas.Json.Raw

/-!
# Requests

A request is a JSON object with a method, which names a tool, and its arguments. The method
`tools/call` names the tool and its arguments in its parameters. Every request is answered under an
id: its own, if that is a whole number or a text that is not empty, and otherwise the next of a
sequence. A whole number with too many digits has no decimal form, and the request is refused.
-/

namespace StoryAtlas

/-- A request for a tool, with the id under which it is answered. -/
structure Request where
  id : String
  tool : String
  arguments : Fields
  deriving Inhabited

/-- What can be wrong with the shape of a request. -/
inductive RequestError where
  | notObject
  | badMethod
  | badParams
  | badToolName
  | badArguments
  deriving DecidableEq, Repr

/-- The code of the error in a reply. -/
def RequestError.code : RequestError → String
  | notObject => "INVALID_REQUEST"
  | badMethod => "INVALID_REQUEST"
  | badParams => "INVALID_PARAMS"
  | badToolName => "INVALID_PARAMS"
  | badArguments => "INVALID_PARAMS"

/-- The wording of the error. -/
def RequestError.message : RequestError → String
  | notObject => "Request must be an object."
  | badMethod => "Request method must be a non-empty string."
  | badParams => "Request params must be an object."
  | badToolName => "tools/call params.name must be a non-empty string."
  | badArguments => "tools/call params.arguments must be an object."

/-- The id of the `n`-th request without one of its own, with at least six digits. -/
def fallbackId (n : Nat) : String :=
  let digits := Nat.toDigits 10 n
  "req-" ++ String.ofList (List.replicate (6 - digits.length) '0' ++ digits)

/-- The id that a request brings along, if it does. -/
def ownId : Option Json → Except Json.Refusal (Option String)
  | some (.int i) =>
    if Json.maxDigits < (Json.digitsOf i).length then .error .longNumber
    else .ok (some (toString i))
  | some (.str s) => .ok (if s = "" then none else some s)
  | _ => .ok none

/-- The id that a payload brings along, if it does. -/
def payloadId : Json → Except Json.Refusal (Option String)
  | .obj fields => ownId (Fields.get? fields "id")
  | _ => .ok none

/-- The payload brings an id along, as it is spelled. -/
def RawJson.bringsId : RawJson → Bool
  | .obj fields =>
    match RawFields.get? fields "id" with
    | some (.int _) => true
    | some (.str points) => !points.isEmpty
    | _ => false
  | _ => false

/-- Chooses the id for a payload; `used` counts the ids taken from the sequence so far. -/
def chooseId (used : Nat) (payload : Json) : Except Json.Refusal (String × Nat) :=
  match payloadId payload with
  | .error refusal => .error refusal
  | .ok (some id) => .ok (id, used)
  | .ok none => .ok (fallbackId (used + 1), used + 1)

/-- A text that is not empty. -/
def nonEmptyText? : Option Json → Option String
  | some (.str s) => if s = "" then none else some s
  | _ => none

/-- An object; one that is missing is empty. -/
def objectOr (value : Option Json) (error : RequestError) : Except RequestError Fields :=
  match value with
  | none => .ok []
  | some (.obj fields) => .ok fields
  | some _ => .error error

/-- The tool and the arguments that parameters name. -/
def unwrapCall (params : Fields) : Except RequestError (String × Fields) :=
  match nonEmptyText? (params.get? "name") with
  | none => .error .badToolName
  | some name =>
    match objectOr (params.get? "arguments") .badArguments with
    | .error e => .error e
    | .ok arguments => .ok (name, arguments)

/-- The tool and the arguments of a payload. -/
def readCall : Json → Except RequestError (String × Fields)
  | .obj fields =>
    match nonEmptyText? (Fields.get? fields "method") with
    | none => .error .badMethod
    | some method =>
      match objectOr (Fields.get? fields "params") .badParams with
      | .error e => .error e
      | .ok params => if method = "tools/call" then unwrapCall params else .ok (method, params)
  | _ => .error .notObject

/-- Reads a payload as a request under the given id. -/
def Request.read (id : String) (payload : Json) : Except RequestError Request :=
  match readCall payload with
  | .error e => .error e
  | .ok (tool, arguments) => .ok ⟨id, tool, arguments⟩

end StoryAtlas
