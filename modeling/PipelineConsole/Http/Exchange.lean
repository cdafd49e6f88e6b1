import PipelineConsole.Clock.Occasion
import PipelineConsole.Http.Message
import PipelineConsole.Json.Codec
import PipelineConsole.Url.Basic

/-!
# Exchanges over a network

A program sends a request to an address and gets an answer, piece by piece, or none. What is out
there is a network with a state of its own. A request that cannot be sent never reaches it.

## Main definitions

* `Http.Outgoing`, `Outgoing.isSendable`, `Outgoing.request` — requests that are sent
* `Http.Incoming`, `Http.Failure` — answers, and why there is none
* `Http.Network`, `Network.send` — sending requests
* `Network.deserted` — a network where nobody answers
-/

namespace PipelineConsole.Http

open Text.Utf8 (Bytes)

/-- A request that is sent. Whoever answers has a number of milliseconds to do so, if there is a
limit. -/
structure Outgoing where
  method : Method
  url : Url
  headers : List (String × String) := []
  body : Bytes := []
  timeLimit : Option Nat := none
  deriving DecidableEq, Repr

/-- Why a request has no answer, or an answer no end. -/
inductive Failure where
  | unsendable
  | unreachable
  | timedOut
  | interrupted
  deriving DecidableEq, Repr

/-- The wording of a failure. -/
def Failure.message : Failure → String
  | .unsendable => "the request cannot be sent"
  | .unreachable => "the host cannot be reached"
  | .timedOut => "the time is up"
  | .interrupted => "the connection is lost"

namespace Outgoing

/-- The characters of a domain that no request line takes. -/
def domainMarks : List Char := "\"`\x7b\x7d".toList

/-- The greatest length of an address that is sent, in octets. -/
def maxUrlLength : Nat := 65534

/-- Whether an address is one of HTTP. -/
def isHttp (u : Url) : Bool := u.scheme = "http" || u.scheme = "https"

/-- Whether a host can be named in a request. -/
def isNameable : Url.Host → Bool
  | .domain name => !name.isEmpty && !name.toList.any domainMarks.contains
  | .ipv4 _ | .ipv6 _ => true

/-- Whether a request can be sent at all. The user of an address is not part of what is sent as the
address. -/
def isSendable (r : Outgoing) : Bool :=
  isHttp r.url && r.url.host.any isNameable &&
    (Text.Utf8.encode { r.url with user := "" }.text).length ≤ maxUrlLength &&
      r.headers.all fun h => h.2.toList.all isHeaderChar

/-- The request as it comes in at the other end. -/
def request (r : Outgoing) : Request where
  method := r.method
  path := r.url.path.text
  query := r.url.query.getD ""
  headers := r.headers
  body := r.body

/-- The header that names the caller. -/
def bearer (token : String) : String × String := ("authorization", "Bearer " ++ token)

/-- The request for a caller, who may have a token. -/
def onBehalfOf (token : Option String) (r : Outgoing) : Outgoing :=
  { r with headers := (token.map bearer).toList ++ r.headers }

/-- The request with a document. -/
def withDocument (document : Json.Value) (r : Outgoing) : Outgoing :=
  { r with
    headers := r.headers ++ [("content-type", "application/json")]
    body := Text.Utf8.encode document.text }

end Outgoing

/-- An answer: its status, and the pieces of its body as they come in until it ends or fails. -/
structure Incoming where
  status : UInt16
  pieces : List Bytes := []
  failure : Option Failure := none
  deriving DecidableEq, Repr

namespace Incoming

/-- Whether the status tells of success. -/
def isSuccess (a : Incoming) : Bool := 200 ≤ a.status && a.status < 300

/-- The whole body. -/
def body (a : Incoming) : Except Failure Bytes :=
  match a.failure with
  | none => .ok a.pieces.flatten
  | some f => .error f

/-- The document in the body, if there is one that fits. -/
def document? {α : Type} (codec : Json.Codec α) (a : Incoming) : Option α :=
  a.body.toOption.bind fun bytes => (codec.read bytes).toOption

/-- The answer that a response becomes on its way. -/
def ofResponse (r : Response) : Incoming where
  status := r.status
  pieces :=
    match r.content with
    | .none => []
    | .json v => [Text.Utf8.encode v.text]
    | .text t => [Text.Utf8.encode t]

end Incoming

/-- Whoever is out there, with a state of some type. -/
structure Network (σ : Type) where
  exchange : Occasion → Outgoing → σ → Except Failure Incoming × σ

namespace Network

variable {σ : Type}

/-- Sends a request, if it can be sent. -/
def send (n : Network σ) (o : Occasion) (r : Outgoing) (s : σ) : Except Failure Incoming × σ :=
  if r.isSendable then n.exchange o r s else (.error .unsendable, s)

/-- A network where nobody answers. -/
def deserted : Network σ where
  exchange _ _ s := (.error .unreachable, s)

end Network

end PipelineConsole.Http
