import PipelineConsole.Backend.Remote
import PipelineConsole.Orchestrator.Routes
import PipelineConsole.Proofs.Backend.Reading
import PipelineConsole.Proofs.Http.Query
import PipelineConsole.Proofs.Http.Route
import PipelineConsole.Proofs.Number.Decimal
import PipelineConsole.Proofs.Url.Segments

/-!
# Calls arrive as operations

A remote backend makes a request of an operation, and the orchestrator reads an operation from the
request. This is the same operation: the segments of the call are those of a route, its parameters
and its document are read as they were written.

One operation is lost on the way. A notification whose id is the name of the route that marks
notifications as read cannot be addressed.

## Main definitions

* `Remote.callFor` — the call for an operation
* `Remote.Points` — the services are where the orchestrator looks for its routes
* `Remote.Brings` — what a request brings of a call
* `Operation.Addressable` — the operations whose calls are routed to them

## Main results

* `Remote.brings_of_outgoing` — the request for a call brings it
* `Remote.dispatch_of_brings`, `Remote.read_of_brings` — it is routed, and read, as the operation
* `Remote.handle_of_brings` — the orchestrator does what the call asks for
-/

namespace PipelineConsole

open Http (Outgoing Request Route)
open Json (Codec)

namespace Remote

/-! ### The calls for operations -/

/-- The call for an operation. Terminating all pipelines begins with their list. -/
def callFor : Operation → Call
  | .create config => documentCall ["pipeline"] PipelineConfig.codec config
  | .list | .terminateAll => listCall
  | .get id => pipelineCall .get id
  | .rename id name => pipelineCall .patch id [] (some (RenameRequest.codec.encode { name }))
  | .edit id config => pipelineCall .post id ["edit"] (some (PipelineConfig.codec.encode config))
  | .delete id => pipelineCall .delete id
  | .act id action => actionCall id action
  | .health id => pipelineCall .get id ["health"]
  | .deadLetters id => pipelineCall .get id ["dlq", "state"]
  | .consume id size =>
    let parameters := (size.map fun n => ("batch_size", toString n.toNat)).toList
    { pipelineCall .get id ["dlq", "consume"] with parameters }
  | .purge id => pipelineCall .post id ["dlq", "purge"]
  | .platform => { segments := ["platform"] }
  | .checkFilter request => documentCall ["filter", "validate"] FilterRequest.codec request
  | .evaluateTransform request =>
    documentCall ["transform", "expression", "evaluate"] TransformRequest.codec request
  | .listNotifications query => notificationCall .get [] query.pairs
  | .getNotification id => notificationCall .get [id]
  | .deleteNotification id => notificationCall .delete [id]
  | .markRead ids =>
    notificationCall .post ["mark-read"] [] (some (MarkReadRequest.codec.encode { ids }))

/-! ### Requests for calls -/

/-- Where a service is below the root. -/
def Service.root : Service → List String
  | .orchestrator => ["api", "v1"]
  | .notifications => ["notifications"]

/-- An address is that of a service, if there is one. -/
def Service.IsAt (service : Service) : Except ErrorBody String → Prop
  | .ok base => ∃ url ∈ (Url.read base).toOption,
      url.path = .segments service.root ∧ url.query = none
  | .error _ => False

instance (service : Service) (base : Except ErrorBody String) : Decidable (service.IsAt base) :=
  match base with
  | .ok base => inferInstanceAs (Decidable (∃ url ∈ (Url.read base).toOption, _))
  | .error _ => inferInstanceAs (Decidable False)

/-- Both services are where the orchestrator looks for its routes. -/
structure Points (r : Remote) : Prop where
  orchestrator : Service.IsAt .orchestrator (r.base .orchestrator)
  notifications : Service.IsAt .notifications (r.base .notifications)

instance (r : Remote) : Decidable r.Points :=
  decidable_of_iff (_ ∧ _) ⟨fun h => ⟨h.1, h.2⟩, fun h => ⟨h.orchestrator, h.notifications⟩⟩

theorem Points.exists_url {r : Remote} (h : r.Points) (service : Service) :
    ∃ base url, r.base service = .ok base ∧ (Url.read base).toOption = some url ∧
      url.path = .segments service.root ∧ url.query = none := by
  have hat : service.IsAt (r.base service) := by
    cases service with
    | orchestrator => exact h.orchestrator
    | notifications => exact h.notifications
  cases hbase : r.base service with
  | error e =>
    rw [hbase] at hat
    exact hat.elim
  | ok base =>
    rw [hbase] at hat
    obtain ⟨url, hurl, hpath, hquery⟩ := hat
    exact ⟨base, url, rfl, hurl, hpath, hquery⟩

/-- A request brings a call: its path is cut into the segments of the call, behind those of the
service, and its query and its body are as the call has them. -/
structure Brings (special : Bool) (req : Request) (c : Call) : Prop where
  method : req.method = c.method
  parts : Route.parts? req.path =
    some (c.service.root ++ c.segments.map (Url.encodeSegment special))
  query : Http.Query.pairs req.query = c.parameters
  document : ∀ v, c.document = some v →
    req.announcesJson = true ∧ req.body = Text.Utf8.encode v.text

section Requests

variable {r : Remote} {c : Call}

theorem path_withQuery (url : Url) (ps : List (String × String)) :
    (url.withQuery ps).path = url.path := by
  unfold Url.withQuery
  split <;> rfl

/-- The parameters of an address that has none. -/
theorem query_withQuery {url : Url} (h : url.query = none) (ps : List (String × String)) :
    (url.withQuery ps).query.getD "" = Http.Query.write ps := by
  unfold Url.withQuery
  rw [h]
  cases ps <;> rfl

/-- The address of a call. -/
theorem address_of_points (h : r.Points) (hc : ∀ s ∈ c.segments, Url.PlainSegment s) :
    ∃ base url special, r.base c.service = .ok base ∧ address base c.segments = .ok url ∧
      url.query = none ∧
      url.path = .segments (c.service.root ++ c.segments.map (Url.encodeSegment special)) := by
  obtain ⟨base, url, hbase, hread, hpath, hquery⟩ := h.exists_url c.service
  have hends : c.service.root.head?.any (· ≠ "") = true ∧ c.service.root.getLast? ≠ some "" := by
    cases c.service <;> decide
  let under : Url := { url with
    path := .segments
      (c.service.root ++ c.segments.map (Url.encodeSegment (Url.isSpecial url.scheme))) }
  have hunder : url.under? c.segments = some under := by
    simp only [Url.under?, hpath, Url.addSegments_of_plain hends.1 hends.2 hc, under]
  have haddress : address base c.segments = .ok under := by
    simp only [address, hread, Option.bind_some, hunder]
  exact ⟨base, under, _, hbase, haddress, hquery, rfl⟩

theorem slash_not_mem_root (service : Service) : ∀ s ∈ service.root, '/' ∉ s.toList := by
  cases service <;> decide

/-- No slash is in a segment of the path that a call is sent to. -/
theorem slash_not_mem_parts (special : Bool) (c : Call) :
    ∀ s ∈ c.service.root ++ c.segments.map (Url.encodeSegment special), '/' ∉ s.toList := by
  intro s hs
  rcases List.mem_append.1 hs with hs | hs
  · exact slash_not_mem_root c.service s hs
  · obtain ⟨s, -, rfl⟩ := List.mem_map.1 hs
    exact Url.slash_not_mem_encodeSegment special s

/-- A document is announced as one, whoever the caller is. -/
theorem announcesJson_withDocument {plain : Outgoing} (h : plain.headers = [])
    (token : Option String) (v : Json.Value) :
    ((plain.onBehalfOf token).withDocument v).request.announcesJson = true := by
  have hheader : ((plain.onBehalfOf token).withDocument v).request.header? "content-type" =
      some "application/json" := by
    simp only [Request.header?, Outgoing.request, Outgoing.withDocument, Outgoing.onBehalfOf, h]
    cases token <;> rfl
  rw [Request.announcesJson, hheader]
  decide

/-- The request for a call brings it. -/
theorem brings_of_outgoing (h : r.Points) (hc : ∀ s ∈ c.segments, Url.PlainSegment s)
    (token : Option String) :
    ∃ out special, r.outgoing token c = .ok out ∧ Brings special out.request c := by
  obtain ⟨base, url, special, hbase, haddress, hquery, hpath⟩ := address_of_points h hc
  let plain : Outgoing :=
    { method := c.method, url := url.withQuery c.parameters, timeLimit := some r.timeLimit }
  let out := (c.document.map (plain.onBehalfOf token).withDocument).getD (plain.onBehalfOf token)
  have hout : r.outgoing token c = .ok out := by
    simp only [outgoing, hbase, haddress, bind, Except.bind, pure, Except.pure]
    rfl
  have hmethod : out.method = c.method := by
    simp only [out]
    cases c.document <;> rfl
  have hurl : out.url = url.withQuery c.parameters := by
    simp only [out]
    cases c.document <;> rfl
  refine ⟨out, special, hout, hmethod, ?_, ?_, ?_⟩
  · have hpath' : out.request.path =
        (Url.Path.segments
          (c.service.root ++ c.segments.map (Url.encodeSegment special))).text := by
      rw [← hpath, Outgoing.request, hurl, path_withQuery]
    have hne : c.service.root ++ c.segments.map (Url.encodeSegment special) ≠ [] := by
      cases c.service <;> simp [Service.root]
    rw [hpath', Route.parts?_text hne (slash_not_mem_parts special c)]
  · rw [Outgoing.request, hurl, query_withQuery hquery, Http.Query.pairs_write]
  · intro v hv
    have hdocument : out = (plain.onBehalfOf token).withDocument v := by
      simp only [out, hv, Option.map_some, Option.getD_some]
    rw [hdocument]
    exact ⟨announcesJson_withDocument rfl token v, rfl⟩

end Requests

end Remote

/-! ### Routes -/

namespace Operation

/-- The id of what an operation is about. -/
def subject? : Operation → Option String
  | get id | rename id _ | edit id _ | delete id | act id _ | health id | deadLetters id
  | consume id _ | purge id | getNotification id | deleteNotification id => some id
  | _ => none

/-- The segment that marks notifications as read, and so stands for no notification. -/
def reserved : String := "mark-read"

/-- The path of an operation's call is that of its route: it does not end with an empty segment, and
no notification has the name of another route. -/
def Addressable : Operation → Prop
  | get id | rename id _ | delete id => id ≠ ""
  | getNotification id | deleteNotification id => id ≠ "" ∧ id ≠ reserved
  | _ => True

end Operation

namespace Remote

open Url (encodeSegment encodeSegment_injective)

/-- The words that occur in the paths of calls. -/
def words : List String :=
  ["", "pipeline", "pause", "resume", "stop", "terminate", "edit", "health", "dlq", "state",
    "consume", "purge", "platform", "filter", "validate", "transform", "expression", "evaluate",
    "mark-read"]

/-- Words are sent as they are. -/
theorem encodeSegment_word (special : Bool) : ∀ w ∈ words, encodeSegment special w = w := by
  cases special <;> decide

/-- A segment that is sent as a word is the word. -/
theorem encodeSegment_ne_word {special : Bool} {id w : String} (hw : w ∈ words) (h : id ≠ w) :
    encodeSegment special id ≠ w := fun heq =>
  h (encodeSegment_injective special (heq.trans (encodeSegment_word special w hw).symm))

section Routes

variable {special : Bool} {req : Request} {op : Operation}

/-- The request for an operation is one for its endpoint. -/
theorem dispatch_of_brings (hone : op ≠ .terminateAll) (hop : op.Addressable)
    (h : Brings special req (callFor op)) :
    Route.dispatch Orchestrator.routes req.method req.path =
      .endpoint op.kind (op.subject?.toList.map (encodeSegment special)) := by
  have hwords := encodeSegment_word special
  simp only [words, List.forall_mem_cons] at hwords
  have hempty {id : String} (hid : id ≠ "") : encodeSegment special id ≠ "" :=
    encodeSegment_ne_word (by decide) hid
  rw [Route.dispatch, h.parts, h.method]
  -- All segments but the id are words. Only a path that ends with the id needs more than that.
  cases op with
  | get id | rename id | delete id =>
    simp [callFor, pipelineCall, Operation.kind, Operation.subject?, Service.root,
      Orchestrator.routes, Route.match?, Route.fixed, Route.around, Route.matchParts?,
      Route.endpoint?_cons, hwords, hempty hop]
  | getNotification id | deleteNotification id =>
    have hreserved : "mark-read" ≠ encodeSegment special id :=
      (encodeSegment_ne_word (by decide) hop.2).symm
    simp [callFor, notificationCall, Operation.kind, Operation.subject?, Service.root,
      Orchestrator.routes, Route.match?, Route.fixed, Route.around, Route.matchParts?,
      Route.endpoint?_cons, hempty hop.1, hreserved]
  | act id action =>
    cases action <;>
      simp [callFor, actionCall, Action.name, Operation.kind, Operation.subject?, Service.root,
        Orchestrator.routes, Route.match?, Route.fixed, Route.around, Route.matchParts?,
        Route.endpoint?_cons, hwords]
  | terminateAll => exact absurd rfl hone
  | _ =>
    simp [callFor, documentCall, listCall, pipelineCall, notificationCall, Operation.kind,
      Operation.subject?, Service.root, Orchestrator.routes, Route.match?, Route.fixed,
      Route.around, Route.matchParts?, Route.endpoint?_cons, hwords]

end Routes

end Remote

/-! ### Reading -/

namespace Remote

section Reading

variable {special : Bool} {req : Request} {c : Call} {op : Operation}

theorem readId_encodeSegment (special : Bool) (id : String) :
    Operation.Kind.readId [Url.encodeSegment special id] = .ok id := by
  rw [Operation.Kind.readId, List.headD_cons, Request.pathParameter_encodeSegment]
  rfl

/-- The document of a call is read back, if it is not too long. -/
theorem readBody_of_brings {α : Type} {codec : Codec α} {a : α} {depth : Nat}
    (h : Brings special req c) (hdocument : c.document = some (codec.encode a))
    (hshort : req.body.length ≤ Request.maxBodyLength) (ha : codec.ReadsBack depth a)
    (hdepth : depth ≤ Json.maxDepth := by decide) :
    Operation.Kind.readBody req codec = .ok a := by
  obtain ⟨hannounced, hbody⟩ := h.document _ hdocument
  have hread : codec.readFirst req.body = .ok a := hbody ▸ ha.readFirst_write hdepth
  rw [Operation.Kind.readBody, Request.document, hannounced, if_neg (by decide),
    if_neg (Nat.not_lt.2 hshort), hread]
  rfl

/-- The size of a batch is read back. -/
theorem readQuery_batchSize (size : Option UInt64)
    (h : Http.Query.pairs req.query = (size.map fun n => ("batch_size", toString n.toNat)).toList) :
    ∃ query, Operation.Kind.readQuery req [("batch_size", .count)] = .ok query ∧
      Http.Query.count? query "batch_size" = size := by
  rw [Operation.Kind.readQuery, Request.queryParameters, Http.Query.read, h]
  cases size with
  | none => exact ⟨_, rfl, rfl⟩
  | some n =>
    have hvalue : Http.Query.readValue .count (toString n.toNat) = .ok (.count n) := by
      rw [Http.Query.readValue, Number.readUnsigned_toString n.toNat_lt]
      exact congrArg (Except.ok ∘ Http.Query.Parameter.count) UInt64.ofNat_toNat
    refine ⟨[("batch_size", .count n)], ?_, rfl⟩
    simp only [Option.map_some, Option.toList_some, Http.Query.readPairs, List.lookup_cons_self,
      List.lookup_nil, Option.isSome_none, Bool.false_eq_true, if_false, hvalue]
    rfl

/-- What is asked for of notifications is read back. -/
theorem readQuery_notifications (q : NotificationQuery)
    (h : Http.Query.pairs req.query = q.pairs) :
    ∃ query, Operation.Kind.readQuery req [("pipeline_id", .text), ("unread_only", .flag)] =
        .ok query ∧
      Http.Query.text? query "pipeline_id" = q.pipelineId ∧
      Http.Query.flag? query "unread_only" = q.unreadOnly := by
  obtain ⟨pipelineId, unreadOnly⟩ := q
  rw [Operation.Kind.readQuery, Request.queryParameters, Http.Query.read, h]
  rcases pipelineId with _ | id <;> rcases unreadOnly with _ | _ | _ <;> exact ⟨_, rfl, rfl, rfl⟩

/-- The operation that is read from a request for an operation. -/
theorem read_of_brings (hone : op ≠ .terminateAll) (hreadable : op.Readable)
    (hshort : req.body.length ≤ Request.maxBodyLength) (h : Brings special req (callFor op)) :
    op.kind.read req (op.subject?.toList.map (Url.encodeSegment special)) (.ok ()) = .ok op := by
  have hid (id : String) : Operation.Kind.readId [Url.encodeSegment special id] = .ok id :=
    readId_encodeSegment special id
  cases op with
  | terminateAll => exact absurd rfl hone
  | list | platform => rfl
  | get id | delete id | act id | health id | deadLetters id | purge id | getNotification id
  | deleteNotification id =>
    exact bind_eq_ok.2 ⟨id, hid id, rfl⟩
  | create config =>
    have hbody := readBody_of_brings h rfl hshort hreadable.readsBack
    exact bind_eq_ok.2 ⟨(), rfl, bind_eq_ok.2 ⟨_, hbody, rfl⟩⟩
  | rename id name =>
    have hbody := readBody_of_brings h rfl hshort ((RenameRequest.lawful_codec 0).readsBack _)
    exact bind_eq_ok.2 ⟨id, hid id, bind_eq_ok.2 ⟨(), rfl, bind_eq_ok.2 ⟨_, hbody, rfl⟩⟩⟩
  | edit id config =>
    have hbody := readBody_of_brings h rfl hshort hreadable.readsBack
    exact bind_eq_ok.2 ⟨id, hid id, bind_eq_ok.2 ⟨(), rfl, bind_eq_ok.2 ⟨_, hbody, rfl⟩⟩⟩
  | consume id size =>
    obtain ⟨query, hquery, hsize⟩ := readQuery_batchSize size h.query
    exact bind_eq_ok.2 ⟨id, hid id, bind_eq_ok.2 ⟨query, hquery, hsize ▸ rfl⟩⟩
  | checkFilter request =>
    have hbody := readBody_of_brings h rfl hshort ((FilterRequest.lawful_codec 0).readsBack _)
    exact bind_eq_ok.2 ⟨(), rfl, bind_eq_ok.2 ⟨_, hbody, rfl⟩⟩
  | evaluateTransform request =>
    have hbody := readBody_of_brings h rfl hshort
      (TransformRequest.readsBack hreadable.kept hreadable.legible)
    exact bind_eq_ok.2 ⟨(), rfl, bind_eq_ok.2 ⟨_, hbody, rfl⟩⟩
  | listNotifications q =>
    obtain ⟨query, hquery, hpipeline, hunread⟩ := readQuery_notifications q h.query
    refine bind_eq_ok.2 ⟨query, hquery, ?_⟩
    rw [hpipeline, hunread]
    rfl
  | markRead ids =>
    have hbody := readBody_of_brings h rfl hshort ((MarkReadRequest.lawful_codec 0).readsBack _)
    exact bind_eq_ok.2 ⟨(), rfl, bind_eq_ok.2 ⟨_, hbody, rfl⟩⟩

/-- No call asks for a head only. -/
theorem method_callFor (op : Operation) : (callFor op).method ≠ .head := by
  cases op <;> simp [callFor, documentCall, listCall, pipelineCall, actionCall, notificationCall]

/-- The orchestrator does what a request for an operation asks for. -/
theorem handle_of_brings (hone : op ≠ .terminateAll) (hop : op.Addressable)
    (hreadable : op.Readable) (hshort : req.body.length ≤ Request.maxBodyLength)
    (h : Brings special req (callFor op)) (s : Orchestrator) (rules : Orchestrator.Rules)
    (o : Occasion) :
    s.handle rules o req = s.answer rules o op := by
  have hmethod : req.method ≠ .head := h.method ▸ method_callFor op
  rw [Orchestrator.handle, dispatch_of_brings hone hop h]
  simp only [read_of_brings hone hreadable hshort h, if_neg hmethod]

end Reading

end Remote

end PipelineConsole
