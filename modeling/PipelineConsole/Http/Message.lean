import PipelineConsole.Json.Value
import PipelineConsole.Text.Utf8

/-!
# HTTP messages

Requests as they come in and responses as they go out, without the wire format.

## Main definitions

* `Http.Method`, `Method.name`, `Method.ofName` — methods
* `Http.Request`, `Request.header?` — requests
* `Http.Response`, `Http.Content` — responses
-/

namespace PipelineConsole.Http

/-- The method of a request. Its case counts: `get` is another method than `GET`. -/
inductive Method where
  | get
  | head
  | post
  | patch
  | delete
  | other (name : String)
  deriving DecidableEq, Repr

namespace Method

/-- The name of a method. -/
def name : Method → String
  | get => "GET"
  | head => "HEAD"
  | post => "POST"
  | patch => "PATCH"
  | delete => "DELETE"
  | other name => name

/-- The method with the given name. -/
def ofName (s : String) : Method :=
  match s with
  | "GET" => get
  | "HEAD" => head
  | "POST" => post
  | "PATCH" => patch
  | "DELETE" => delete
  | s => other s

end Method

/-- A character that the value of a header may have: no control character other than a tab. -/
def isHeaderChar (c : Char) : Bool := c = '\t' || (0x20 ≤ c.toNat && c.toNat ≠ 0x7F)

/-- A request. The path and the query are as they were sent, the names of headers in lower case. -/
structure Request where
  method : Method
  path : String
  query : String := ""
  headers : List (String × String) := []
  body : Text.Utf8.Bytes := []
  deriving DecidableEq, Repr

namespace Request

/-- The first header with the given name. -/
def header? (r : Request) (name : String) : Option String := r.headers.lookup name

end Request

/-- What a response holds. -/
inductive Content where
  | none
  | json (value : Json.Value)
  | text (text : String)
  deriving Repr

/-- A response; `allow` lists the methods of the resource if another one was asked for. -/
structure Response where
  status : UInt16
  allow : List Method := []
  content : Content := .none
  deriving Repr

namespace Response

/-- A response with a document. -/
def ofJson (status : UInt16) (value : Json.Value) : Response := { status, content := .json value }

/-- A response with a text. -/
def ofText (status : UInt16) (text : String) : Response := { status, content := .text text }

/-- The response without what it holds. -/
def withoutContent (r : Response) : Response := { r with content := .none }

end Response

end PipelineConsole.Http
