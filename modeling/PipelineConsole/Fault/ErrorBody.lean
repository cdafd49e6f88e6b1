import PipelineConsole.Http.Reason
import PipelineConsole.Json.Record

/-!
# Error bodies

Every failed call comes down to a status code and a message. The orchestrator answers with more: an
own code and details, of which the console keeps the message only. An internal error never shows
what the orchestrator said about it.

## Main definitions

* `ErrorBody` — a code and a message
* `BackendFault` — the orchestrator's error body
* `BackendFault.toErrorBody` — what the console makes of it
-/

namespace PipelineConsole

/-- A status code and a message. -/
structure ErrorBody where
  code : UInt16
  message : String
  deriving DecidableEq, Repr

namespace ErrorBody

/-- The body of every internal error. -/
def internal : ErrorBody := ⟨500, "Internal server error"⟩

/-- The form in documents. -/
def codec : Json.Codec ErrorBody :=
  (Json.Codec.record "ApiErrorBody"
    (.cons (.required "code" .uint16) <| .cons (.required "message" .text) .done)).iso
    (fun (code, message, _) => ⟨code, message⟩) (fun e => (e.code, e.message, ()))

/-- The code and the message in one line. -/
def line (e : ErrorBody) : String := toString e.code.toNat ++ ": " ++ e.message

/-- The error as the console answers with it: a code that is no status code becomes an internal
error. -/
def asAnswer (e : ErrorBody) : ErrorBody := if 100 ≤ e.code ∧ e.code ≤ 999 then e else .internal

/-- The code with its reason phrase, and the message. -/
def described (e : ErrorBody) : String :=
  let reason := (Http.reason? e.code.toNat).getD "<unknown status code>"
  toString e.code.toNat ++ " " ++ reason ++ ": " ++ e.message

end ErrorBody

/-- The error body of the orchestrator. -/
structure BackendFault where
  status : Option UInt16 := none
  code : Option String := none
  message : Option String := none
  details : List (String × Json.Value) := []

namespace BackendFault

/-- The form in documents; empty details are not written. -/
def codec : Json.Codec BackendFault :=
  (Json.Codec.record "BackendErrorDetail"
    (.cons (.optional "status" .uint16) <| .cons (.optional "code" .text) <|
      .cons (.optional "message" .text) <|
      .cons ⟨"details", .table, .fallback [], List.isEmpty⟩ .done)).iso
    (fun (status, code, message, details, _) => ⟨status, code, message, details⟩)
    (fun e => (e.status, e.code, e.message, e.details, ()))

/-- The fault with one more detail. -/
def withDetail (e : BackendFault) (name : String) (value : Json.Value) : BackendFault :=
  { e with details := Json.Value.insertMember name value e.details }

/-- The message that stands for a missing one. -/
def defaultMessage (status : UInt16) : String :=
  match status with
  | 400 => "bad request"
  | 401 => "unauthorized"
  | 403 => "forbidden"
  | 404 => "not found"
  | 409 => "conflict"
  | 422 => "invalid configuration"
  | 501 => "not implemented"
  | 502 => "bad gateway"
  | 503 => "service unavailable"
  | _ => "request failed"

/-- What the console tells of a fault that came with the given status: its message, or a default if
there is none. Nothing is told of an internal error. -/
def toErrorBody (e : BackendFault) (status : UInt16) : ErrorBody :=
  if status = 500 then .internal
  else
    match e.message with
    | some "" | none => ⟨status, defaultMessage status⟩
    | some message => ⟨status, message⟩

end BackendFault

end PipelineConsole
