import PipelineConsole.Backend.Operation
import PipelineConsole.Http.Extract

/-!
# Operations of requests

An endpoint stands for a kind of operation; the operation itself is read from the request. The parts
of a request are looked at in a fixed order: the id in the path, the query, the authorization, the
body. The first that is wrong decides the answer.

## Main definitions

* `Operation.Kind` — kinds of operations
* `Kind.read` — the operation of a request
-/

namespace PipelineConsole.Operation

open Http (Request Response)

/-- A kind of operation. -/
inductive Kind where
  | create
  | list
  | get
  | rename
  | edit
  | delete
  | act (action : Action)
  | terminateAll
  | health
  | deadLetters
  | consume
  | purge
  | platform
  | checkFilter
  | evaluateTransform
  | listNotifications
  | getNotification
  | deleteNotification
  | markRead
  deriving DecidableEq, Repr

namespace Kind

/-- The id in the path of a request. -/
def readId (parameters : List String) : Except Response String :=
  (Request.pathParameter "id" (parameters.headD "")).mapError Http.Rejection.response

/-- The document in the body of a request. -/
def readBody {α : Type} (r : Request) (codec : Json.Codec α) : Except Response α :=
  (r.document codec).mapError Http.Rejection.response

/-- The parameters in the query of a request. -/
def readQuery (r : Request) (known : List (String × Http.Query.Kind)) :
    Except Response (List (String × Http.Query.Parameter)) :=
  (r.queryParameters known).mapError Http.Rejection.response

/-- Reads an operation from a request and the parameters of its path. -/
def read (kind : Kind) (r : Request) (parameters : List String)
    (authorized : Except Response Unit) : Except Response Operation :=
  match kind with
  | create => do
    -- A body is not read for those who lack a token.
    authorized
    return .create (← readBody r PipelineConfig.codec)
  | list => do
    authorized
    return .list
  | get => do
    let id ← readId parameters
    authorized
    return .get id
  | rename => do
    let id ← readId parameters
    authorized
    return .rename id (← readBody r RenameRequest.codec).name
  | edit => do
    let id ← readId parameters
    authorized
    return .edit id (← readBody r PipelineConfig.codec)
  | delete => do
    let id ← readId parameters
    authorized
    return .delete id
  | act action => do
    let id ← readId parameters
    authorized
    return .act id action
  | terminateAll => do
    authorized
    return .terminateAll
  | health => do
    let id ← readId parameters
    authorized
    return .health id
  | deadLetters => do
    let id ← readId parameters
    authorized
    return .deadLetters id
  | consume => do
    let id ← readId parameters
    -- A bad query is told even to those who lack a token.
    let query ← readQuery r [("batch_size", .count)]
    authorized
    return .consume id (Http.Query.count? query "batch_size")
  | purge => do
    let id ← readId parameters
    authorized
    return .purge id
  | platform => do
    authorized
    return .platform
  | checkFilter => do
    authorized
    return .checkFilter (← readBody r FilterRequest.codec)
  | evaluateTransform => do
    authorized
    return .evaluateTransform (← readBody r TransformRequest.codec)
  | listNotifications => do
    let query ← readQuery r [("pipeline_id", .text), ("unread_only", .flag)]
    authorized
    return .listNotifications
      ⟨Http.Query.text? query "pipeline_id", Http.Query.flag? query "unread_only"⟩
  | getNotification => do
    let id ← readId parameters
    authorized
    return .getNotification id
  | deleteNotification => do
    let id ← readId parameters
    authorized
    return .deleteNotification id
  | markRead => do
    authorized
    return .markRead (← readBody r MarkReadRequest.codec).ids

end Kind

end PipelineConsole.Operation
