import PipelineConsole.Http.MediaType
import PipelineConsole.Http.Message
import PipelineConsole.Http.Query
import PipelineConsole.Json.Codec

/-!
# Reading requests

What a handler takes from a request: a parameter of its path, the parameters of its query, the
document in its body and the token of its caller. A request that cannot be read is rejected with a
text.

## Main definitions

* `Http.Rejection`, `Rejection.response` — why a request is rejected, and the answer
* `Request.pathParameter`, `Request.queryParameters`, `Request.document` — parts of requests
* `Request.bearer?` — the token of the caller
-/

namespace PipelineConsole.Http

/-- Why a request is rejected. -/
inductive Rejection where
  | path (name : String)
  | query (cause : QueryError)
  | mediaType
  | tooLong
  | malformed
  | misfit (place : List Json.Segment) (cause : Json.Mismatch)
  deriving DecidableEq, Repr

/-- The answer to a rejected request. -/
def Rejection.response : Rejection → Response
  | .path name => .ofText 400 ("Invalid URL: Invalid UTF-8 in `" ++ name ++ "`")
  | .query cause => .ofText 400 ("Failed to deserialize query string: " ++ cause.message)
  | .mediaType => .ofText 415 "Expected request with `Content-Type: application/json`"
  | .tooLong => .ofText 413 "Failed to buffer the request body: length limit exceeded"
  | .malformed => .ofText 400 "Failed to parse the request body as JSON"
  | .misfit place cause =>
    .ofText 422 ("Failed to deserialize the JSON body into the target type: " ++
      Json.ReadError.located place cause)

/-- A visible ASCII character, a space or a tab. -/
def isVisible (c : Char) : Bool := c = '\t' || (0x20 ≤ c.toNat && c.toNat < 0x7F)

namespace Request

/-- A parameter of the path, from its part of the path as it was sent. -/
def pathParameter (name raw : String) : Except Rejection String :=
  match Text.Utf8.decode? (Percent.decode (Text.Utf8.encode raw)) with
  | some s => .ok s
  | none => .error (.path name)

/-- The parameters of the query. -/
def queryParameters (r : Request) (known : List (String × Query.Kind)) :
    Except Rejection (List (String × Query.Parameter)) :=
  (Query.read known r.query).mapError .query

/-- The greatest length of a body, in octets. -/
def maxBodyLength : Nat := 2 * 1024 * 1024

/-- Whether the body is announced as a JSON document. -/
def announcesJson (r : Request) : Bool :=
  match r.header? "content-type" with
  | some value => value.toList.all isVisible && (MediaType.read? value).any MediaType.isJson
  | none => false

/-- The document in the body. What follows the document is not looked at. -/
def document {α : Type} (r : Request) (codec : Json.Codec α) : Except Rejection α :=
  if !r.announcesJson then .error .mediaType
  else if maxBodyLength < r.body.length then .error .tooLong
  else
    match codec.readFirst r.body with
    | .ok a => .ok a
    | .error .malformed => .error .malformed
    | .error (.mismatch place cause) => .error (.misfit place cause)

/-- The scheme of tokens. -/
def bearerScheme : List Char := "bearer".toList

/-- The token of the caller: what follows the scheme, in any case, and a space. Spaces before the
token do not count. -/
def bearer? (r : Request) : Option String := do
  let value ← r.header? "authorization"
  let cs := value.toList
  guard (cs.all isVisible)
  guard ((cs.take bearerScheme.length).map Char.toLower = bearerScheme)
  match cs.drop bearerScheme.length with
  | ' ' :: token => some (.ofList (Text.dropBlanks token))
  | _ => none

end Request

end PipelineConsole.Http
