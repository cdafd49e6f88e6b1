import PipelineConsole.Http.Message
import PipelineConsole.Text.Blank

/-!
# Routes

A route is a pattern of path parts with the endpoints that it has for some methods. A parameter
matches any part, except that a path does not end with an empty parameter. Of the routes that match
a path the first in the list counts, so a route with a fixed part is listed before one with a
parameter in the same place.

## Main definitions

* `Http.Route`, `Route.fixed`, `Route.around` — routes
* `Route.match?` — the parameters of a path that matches
* `Route.dispatch` — the endpoint for a request
-/

namespace PipelineConsole.Http

/-- A part of a pattern. -/
inductive PathPart where
  | literal (s : String)
  | parameter
  deriving DecidableEq, Repr

/-- A pattern with its endpoints by method. -/
structure Route (ε : Type) where
  path : List PathPart
  endpoints : List (Method × ε)
  deriving Repr

/-- What becomes of a request: its path or its method is unknown, or there is an endpoint for it and
the parameters of its path. -/
inductive Dispatch (ε : Type) where
  | unknownPath
  | unknownMethod (known : List Method)
  | endpoint (e : ε) (parameters : List String)
  deriving Repr

namespace Route

variable {ε : Type}

/-- A route without parameter. -/
def fixed (parts : List String) (endpoints : List (Method × ε)) : Route ε :=
  ⟨parts.map .literal, endpoints⟩

/-- A route with one parameter. -/
def around (before after : List String) (endpoints : List (Method × ε)) : Route ε :=
  ⟨before.map .literal ++ .parameter :: after.map .literal, endpoints⟩

/-- The parameters of a path, if it matches the pattern. -/
def matchParts? : List PathPart → List String → Option (List String)
  | [], [] => some []
  | .literal s :: rest, part :: parts => if s = part then matchParts? rest parts else none
  | .parameter :: rest, part :: parts =>
    if part = "" ∧ parts = [] then none else (matchParts? rest parts).map (part :: ·)
  | _, _ => none

/-- The parts of a path that starts with a slash. -/
def parts? (path : String) : Option (List String) :=
  match path.toList with
  | '/' :: cs => some ((Text.pieces '/' cs).map .ofList)
  | _ => none

/-- The first route that matches, with the parameters of the path. -/
def match? (routes : List (Route ε)) (parts : List String) : Option (Route ε × List String) :=
  routes.findSome? fun r => (matchParts? r.path parts).map (r, ·)

/-- The methods that a route answers: `HEAD` works where `GET` does. -/
def methods (r : Route ε) : List Method :=
  r.endpoints.flatMap fun e => if e.1 = .get then [.get, .head] else [e.1]

/-- The endpoint of a route for a method. -/
def endpoint? (r : Route ε) (m : Method) : Option ε :=
  r.endpoints.lookup (if m = .head then .get else m)

/-- What becomes of a request with the given method and path. -/
def dispatch (routes : List (Route ε)) (m : Method) (path : String) : Dispatch ε :=
  match parts? path >>= match? routes with
  | none => .unknownPath
  | some (r, parameters) =>
    match r.endpoint? m with
    | some e => .endpoint e parameters
    | none => .unknownMethod r.methods

end Route

end PipelineConsole.Http
