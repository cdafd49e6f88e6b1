import Mathlib.Data.List.Forall2
import PipelineConsole.Console.Remote
import PipelineConsole.Proofs.Backend.Proxy

/-!
# A console in front of an orchestrator is transparent

A console may perform operations itself, with an orchestrator in its memory, or hand them on to an
orchestrator behind it. Whoever uses the console cannot tell which of the two it does: every request
is answered the same, and the orchestrators stay alike. Only the order in which pipelines are
terminated is another one, where all of them are.

Each of the two orchestrators goes through its pipelines in an order of its own, which may be
another one every time. So pipelines that were created at the same time may be listed in either
order, and where two pipelines are active, a creation may be refused for the sake of either of them.

The console behind the network must be able to address what a request is about. It cannot address a
notification whose id is the name of the route that marks notifications as read. Such an id comes in
percent-encoded, is decoded, and needs no encoding on its way to the orchestrator, where it is taken
for that route.

## Main definitions

* `Console.SameAnswer` — answers that tell the same but for the order of pipelines
* `Console.Event`, `Console.session` — what happens to a console, and what it answers
* `Console.Event.SameButOrder` — the same happens, but pipelines are met in another order
* `Console.Fair` — what is assumed of the requests of a session

## Main results

* `Console.answerOperation_alike`, `Console.handle_alike` — one operation, one request
* `Console.session_transparent` — a whole session
-/

namespace PipelineConsole.Console

open Http (Request Route)
open Orchestrator (Rules network)

/-- Two answers are the same, or they tell replies that are the same but for the order. -/
inductive SameAnswer : Answer → Answer → Prop where
  | refl (a : Answer) : SameAnswer a a
  | reply {op : Operation} {reply reply' : op.Reply} (h : op.SameReply (.ok reply) (.ok reply')) :
      SameAnswer (.response (op.response reply)) (.response (op.response reply'))

theorem SameAnswer.headOnly {a a' : Answer} (h : SameAnswer a a') :
    SameAnswer a.headOnly a'.headOnly := by
  cases h with
  | refl a => exact .refl _
  | reply h => cases h <;> exact .refl _

/-! ### One operation -/

section Answer

variable {σ : Type} {c : Console σ} {token : Option String} {o : Occasion} {op : Operation}
  {s t : σ}

theorem answerOperation_of_error {e : ErrorBody}
    (h : c.backend.perform token o op s = (.error e, t)) :
    c.answerOperation token o op s = (e.response, t) := by
  simp only [answerOperation, h]

theorem answerOperation_of_ok {reply : op.Reply}
    (h : c.backend.perform token o op s = (.ok reply, t)) (hshown : op.shown? = none) :
    c.answerOperation token o op s = (op.response reply, t) := by
  simp only [answerOperation, h, hshown]

/-- A changed pipeline is answered like the question for it. -/
theorem answerOperation_of_shown {reply : op.Reply} {id : String}
    (h : c.backend.perform token o op s = (.ok reply, t)) (hshown : op.shown? = some id) :
    c.answerOperation token o op s = c.answerOperation token o (.get id) t := by
  simp only [answerOperation, h, hshown]
  rcases c.backend.perform token o (.get id) t with ⟨_ | _, _⟩ <;> rfl

end Answer

section Operation

variable {settings : Settings} {rules : Rules} {token : Option String} {o : Occasion}
  {op : Operation} {s s' : Orchestrator}

theorem backend_remote (settings : Settings) (rules : Rules)
    (cluster : Kafka.Cluster Orchestrator) :
    (remote settings (network rules) cluster).backend.perform =
      (Remote.ofSettings settings).perform (network rules) := rfl

/-- The backends of the two consoles reply alike. -/
theorem perform_alike (hpasses : (Remote.ofSettings settings).Passes token o s' op)
    (hs : s'.Readable) (h : s.Alike s') (hop : s'.Unambiguous rules op) (order : List String)
    (own : Settings) (cluster : Kafka.Cluster Orchestrator) :
    let proxied := (remote settings (network rules) cluster).backend.perform token o op s
    let direct := (inMemory own rules).backend.perform token { o with order } op s'
    op.SameReply proxied.1 direct.1 ∧ proxied.2.Alike direct.2 :=
  Remote.perform_alike hpasses hs h hop order

/-- An operation that shows no pipeline is answered the same. -/
theorem answerOperation_alike_of_plain (hpasses : (Remote.ofSettings settings).Passes token o s' op)
    (hs : s'.Readable) (h : s.Alike s') (hop : s'.Unambiguous rules op) (hshown : op.shown? = none)
    (order : List String) (own : Settings) (cluster : Kafka.Cluster Orchestrator) :
    let proxied := (remote settings (network rules) cluster).answerOperation token o op s
    let direct := (inMemory own rules).answerOperation token { o with order } op s'
    SameAnswer (.response proxied.1) (.response direct.1) ∧ proxied.2.Alike direct.2 := by
  obtain ⟨hreply, hstates⟩ := perform_alike hpasses hs h hop order own cluster
  rcases hremote : (remote settings (network rules) cluster).backend.perform token o op s with
    ⟨x, t⟩
  rcases hdirect : (inMemory own rules).backend.perform token { o with order } op s' with ⟨y, t'⟩
  rw [hremote, hdirect] at hreply hstates
  dsimp only at hreply ⊢
  match x, y with
  | .error e, .error e' =>
    obtain rfl : e = e' := hreply.error_inj
    rw [answerOperation_of_error hremote, answerOperation_of_error hdirect]
    exact ⟨.refl _, hstates⟩
  | .ok reply, .ok reply' =>
    rw [answerOperation_of_ok hremote hshown, answerOperation_of_ok hdirect hshown]
    exact ⟨.reply hreply, hstates⟩
  | .error _, .ok _ | .ok _, .error _ => nomatch hreply

/-- An operation is answered the same. -/
theorem answerOperation_alike (hpasses : (Remote.ofSettings settings).Passes token o s' op)
    (hs : s'.Readable) (h : s.Alike s') (hop : s'.Unambiguous rules op) (order : List String)
    (own : Settings) (cluster : Kafka.Cluster Orchestrator) :
    let proxied := (remote settings (network rules) cluster).answerOperation token o op s
    let direct := (inMemory own rules).answerOperation token { o with order } op s'
    SameAnswer (.response proxied.1) (.response direct.1) ∧ proxied.2.Alike direct.2 := by
  cases hshown : op.shown? with
  | none => exact answerOperation_alike_of_plain hpasses hs h hop hshown order own cluster
  | some id =>
    obtain ⟨hreply, hstates⟩ := perform_alike hpasses hs h hop order own cluster
    have hreply := hreply.eq_of_shown hshown
    rcases hremote : (remote settings (network rules) cluster).backend.perform token o op s with
      ⟨x, t⟩
    rw [hremote] at hreply hstates
    rcases Orchestrator.perform_cases rules { o with order } op s' with
      ⟨reply, t', hperform⟩ | ⟨f, hperform⟩
    · have hdirect : (inMemory own rules).backend.perform token { o with order } op s' =
          (.ok reply, t') := Backend.inMemory_of_ok hperform
      rw [hdirect] at hreply hstates
      obtain rfl : x = .ok reply := hreply
      -- The pipeline that was changed is there, and so it has an id.
      obtain ⟨p, hp⟩ := Orchestrator.get?_of_shown hperform hshown
      have hfresh : { o with order }.freshId ≠ "" := hpasses.fresh
      have ht' : t'.Readable := hs.perform hfresh hpasses.readable hperform
      have hget : (Remote.ofSettings settings).Passes token o t' (.get id) :=
        { hpasses with
          delivers := fun errand herrand => by
            obtain rfl := List.mem_singleton.1 herrand
            refine hpasses.delivers _ ?_
            rw [Orchestrator.errands_of_ne s' (op.ne_terminateAll_of_shown hshown), hshown]
            exact List.mem_cons_of_mem _ List.mem_cons_self
          addressable := (ht' id p hp).1
          readable := trivial }
      dsimp only
      rw [answerOperation_of_shown hremote hshown, answerOperation_of_shown hdirect hshown]
      exact answerOperation_alike_of_plain hget ht' hstates trivial rfl order own cluster
    · have hdirect : (inMemory own rules).backend.perform token { o with order } op s' =
          (.error f.toErrorBody, s') := Backend.inMemory_of_error hperform
      rw [hdirect] at hreply hstates
      obtain rfl : x = .error f.toErrorBody := hreply
      dsimp only
      rw [answerOperation_of_error hremote, answerOperation_of_error hdirect]
      exact ⟨.refl _, hstates⟩

end Operation

/-! ### One request -/

/-- What a request asks a console for, if it asks for anything. -/
def asked? (settings : Settings) (r : Request) : Option Call :=
  match Route.dispatch routes r.method r.path with
  | .endpoint e parameters => (read settings e r parameters).toOption
  | _ => none

/-- What a request asks for is answered, or the head of it is. -/
theorem handle_of_asked {σ : Type} {c : Console σ} {o : Occasion} {r : Request} {s : σ}
    {call : Call} (h : asked? c.settings r = some call) :
    c.handle o r s =
      (let answer := (c.answer r.bearer? o call s).1
       if r.method = .head then answer.headOnly else answer, (c.answer r.bearer? o call s).2) := by
  unfold asked? at h
  unfold handle
  cases hdispatch : Route.dispatch routes r.method r.path with
  | unknownPath | unknownMethod =>
    rw [hdispatch] at h
    cases h
  | endpoint e parameters =>
    cases hread : read c.settings e r parameters with
    | error response =>
      simp only [hdispatch, hread] at h
      cases h
    | ok call' =>
      simp only [hdispatch, hread] at h
      obtain rfl : call' = call := Option.some.inj h
      simp only [hread]

/-- The state after a request is that after what the request asks for. -/
theorem state_handle {σ : Type} (c : Console σ) (o : Occasion) (r : Request) (s : σ) :
    (c.handle o r s).2 =
      match asked? c.settings r with
      | some call => (c.answer r.bearer? o call s).2
      | none => s := by
  unfold handle asked?
  cases Route.dispatch routes r.method r.path with
  | unknownPath | unknownMethod => rfl
  | endpoint e parameters =>
    cases hread : read c.settings e r parameters with
    | error response | ok call =>
      simp only [hread]
      rfl

/-- The endpoints whose paths end with an id. -/
def Endpoint.endsWithId : Endpoint → Bool
  | .operation .get | .operation .rename | .operation .delete | .operation .getNotification
  | .operation .deleteNotification => true
  | _ => false

/-- Their paths are words and the id. -/
theorem path_of_endsWithId : ∀ route ∈ routes, ∀ e ∈ route.endpoints.map Prod.snd,
    e.endsWithId = true →
      ∃ before ∈ [["api", "pipeline"], ["api", "notifications"]],
        route.path = before.map .literal ++ [.parameter] := by
  decide

/-- What is assumed of an operation that a caller asks for: the requests for it come in at the
orchestrator, no number in its documents is read as another, it is not about the notification that
cannot be addressed, and if it is a creation, there is at most one pipeline that may stand in its
way. -/
structure Manageable (r : Remote) (rules : Rules) (token : Option String) (s : Orchestrator)
    (op : Operation) : Prop where
  delivers : ∀ errand ∈ s.errands op, r.Delivers token (Remote.callFor errand)
  legible : op.Legible
  unreserved : op ≠ .getNotification Operation.reserved ∧
    op ≠ .deleteNotification Operation.reserved
  unambiguous : s.Unambiguous rules op

section Request

variable {settings : Settings} {rules : Rules} {r : Request} {op : Operation} {e : Endpoint}
  {id : String} {parameters : List String} {s : Orchestrator} {o : Occasion}

/-- Whoever is named at the end of a path has a name. -/
theorem ne_empty_of_endsWithId (h : Route.dispatch routes r.method r.path = .endpoint e parameters)
    (he : e.endsWithId = true) (hid : Operation.Kind.readId parameters = .ok id) : id ≠ "" := by
  obtain ⟨route, hroute, hmem, parts, hparts⟩ := Route.mem_of_dispatch h
  obtain ⟨before, -, hpath⟩ := path_of_endsWithId route hroute e hmem he
  obtain ⟨part, hpart, rfl⟩ := Route.ne_empty_of_matchParts? (hpath ▸ hparts)
  exact Request.ne_empty_of_pathParameter hpart (mapError_eq_ok.1 hid)

/-- An operation that is asked for comes from its endpoint. -/
theorem from_of_asked (h : asked? settings r = some (.operation op)) :
    ∃ parameters, Route.dispatch routes r.method r.path =
      .endpoint (.operation op.kind) parameters ∧ op.From r parameters := by
  unfold asked? at h
  split at h
  · next e parameters hdispatch =>
    have hread : read settings e r parameters = .ok (.operation op) := by
      cases hread : read settings e r parameters with
      | error response =>
        rw [hread] at h
        cases h
      | ok call =>
        rw [hread] at h
        exact congrArg Except.ok (Option.some.inj h)
    cases e with
    | alive => cases hread
    | statusStream =>
      obtain ⟨_, -, hread⟩ := bind_eq_ok.1 hread
      obtain ⟨_, -, hread⟩ := bind_eq_ok.1 hread
      cases hread
    | probe kind =>
      obtain ⟨_, -, hread⟩ := bind_eq_ok.1 hread
      obtain ⟨_, -, hread⟩ := bind_eq_ok.1 hread
      cases hread
    | operation kind =>
      obtain ⟨op', hop', hread⟩ := bind_eq_ok.1 hread
      obtain rfl : op' = op := Call.operation.inj (Except.ok.inj hread)
      obtain ⟨rfl, hfrom⟩ := Operation.Kind.from_of_read hop'
      exact ⟨parameters, hdispatch, hfrom⟩
  · cases h

/-- An operation that is asked for passes to the orchestrator. -/
theorem passes_of_asked (hpoints : (Remote.ofSettings settings).Points) (hfresh : o.freshId ≠ "")
    (h : asked? settings r = some (.operation op))
    (hop : Manageable (.ofSettings settings) rules r.bearer? s op) :
    (Remote.ofSettings settings).Passes r.bearer? o s op := by
  obtain ⟨parameters, hdispatch, hfrom⟩ := from_of_asked h
  refine ⟨hpoints, hfresh, hop.delivers, ?_, Operation.readable_of_from hfrom hop.legible⟩
  cases op with
  | get id | rename id _ | delete id => exact ne_empty_of_endsWithId hdispatch rfl hfrom
  | getNotification id =>
    refine ⟨ne_empty_of_endsWithId hdispatch rfl hfrom, ?_⟩
    rintro rfl
    exact hop.unreserved.1 rfl
  | deleteNotification id =>
    refine ⟨ne_empty_of_endsWithId hdispatch rfl hfrom, ?_⟩
    rintro rfl
    exact hop.unreserved.2 rfl
  | _ => trivial

end Request

/-- What is assumed of what a request asks for. Probes are left out: they are made by the one
console, and answered from memory by the other. -/
def Call.Fair (settings : Settings) (rules : Rules) (token : Option String) (s : Orchestrator) :
    Call → Prop
  | .operation op => Manageable (.ofSettings settings) rules token s op
  | .probe _ => False
  | .alive | .stream _ => True

/-- What is assumed of a request, and of the occasion on which it comes in. -/
structure FairRequest (settings : Settings) (rules : Rules) (s : Orchestrator) (o : Occasion)
    (r : Request) : Prop where
  fresh : o.freshId ≠ ""
  call : ∀ call, asked? settings r = some call → call.Fair settings rules r.bearer? s

/-- A request for an operation is fair if the operation is manageable. -/
theorem FairRequest.of_asked {settings : Settings} {rules : Rules} {s : Orchestrator} {o : Occasion}
    {r : Request} {op : Operation} (hfresh : o.freshId ≠ "")
    (hasked : asked? settings r = some (.operation op))
    (hop : Manageable (.ofSettings settings) rules r.bearer? s op) :
    FairRequest settings rules s o r where
  fresh := hfresh
  call call hcall := by
    obtain rfl : .operation op = call := Option.some.inj (hasked.symm.trans hcall)
    exact hop

/-- A request for an operation that takes a single call is fair if that call comes in. -/
theorem FairRequest.of_single {settings : Settings} {rules : Rules} {s : Orchestrator}
    {o : Occasion} {r : Request} {op : Operation} (hfresh : o.freshId ≠ "")
    (hasked : asked? settings r = some (.operation op)) (hsingle : s.errands op = [op])
    (hdelivers : (Remote.ofSettings settings).Delivers r.bearer? (Remote.callFor op))
    (hlegible : op.Legible)
    (hunreserved : op ≠ .getNotification Operation.reserved ∧
      op ≠ .deleteNotification Operation.reserved)
    (hunambiguous : s.Unambiguous rules op) : FairRequest settings rules s o r := by
  refine .of_asked hfresh hasked ⟨fun errand herrand => ?_, hlegible, hunreserved, hunambiguous⟩
  rw [hsingle] at herrand
  obtain rfl := List.mem_singleton.1 herrand
  exact hdelivers

section Handle

variable {settings own : Settings} {rules : Rules} {r : Request} {s s' : Orchestrator}
  {o : Occasion}

/-- All that reading depends on is whether authorization is on. -/
theorem read_congr (h : own.authEnabled = settings.authEnabled) (e : Endpoint)
    (parameters : List String) : read own e r parameters = read settings e r parameters := by
  have hauthorize : authorize own r = authorize settings r := by rw [authorize, authorize, h]
  cases e with
  | alive => rfl
  | statusStream | operation | probe => rw [read, read, hauthorize]

/-- What a request asks for is answered the same. -/
theorem answer_alike (hpoints : (Remote.ofSettings settings).Points) (hs : s'.Readable)
    (hfair : FairRequest settings rules s' o r) {call : Call}
    (hasked : asked? settings r = some call) (h : s.Alike s') (order : List String)
    (own : Settings) (cluster : Kafka.Cluster Orchestrator) :
    let proxied := (remote settings (network rules) cluster).answer r.bearer? o call s
    let direct := (inMemory own rules).answer r.bearer? { o with order } call s'
    SameAnswer proxied.1 direct.1 ∧ proxied.2.Alike direct.2 := by
  cases call with
  | alive | stream => exact ⟨.refl _, h⟩
  | probe p => exact (hfair.call _ hasked).elim
  | operation op =>
    have hop : Manageable (.ofSettings settings) rules r.bearer? s' op := hfair.call _ hasked
    have hpasses := passes_of_asked hpoints hfair.fresh hasked hop
    exact answerOperation_alike hpasses hs h hop.unambiguous order own cluster

/-- A request is answered the same. -/
theorem handle_alike (hpoints : (Remote.ofSettings settings).Points)
    (hauth : own.authEnabled = settings.authEnabled) (hs : s'.Readable)
    (hfair : FairRequest settings rules s' o r) (h : s.Alike s') (order : List String)
    (cluster : Kafka.Cluster Orchestrator) :
    let proxied := (remote settings (network rules) cluster).handle o r s
    let direct := (inMemory own rules).handle { o with order } r s'
    SameAnswer proxied.1 direct.1 ∧ proxied.2.Alike direct.2 := by
  -- Both consoles have the same routes and read the same, and so they refuse the same requests.
  unfold handle
  cases hdispatch : Route.dispatch routes r.method r.path with
  | unknownPath | unknownMethod => exact ⟨.refl _, h⟩
  | endpoint e parameters =>
    have hsettings : (remote settings (network rules) cluster).settings = settings := rfl
    have hown : (inMemory own rules).settings = own := rfl
    simp only [hsettings, hown, read_congr hauth]
    cases hread : read settings e r parameters with
    | error response => exact ⟨.refl _, h⟩
    | ok call =>
      have hasked : asked? settings r = some call := by
        simp only [asked?, hdispatch, hread]
        rfl
      obtain ⟨hsame, hstates⟩ := answer_alike hpoints hs hfair hasked h order own cluster
      refine ⟨?_, hstates⟩
      dsimp only
      split
      · exact hsame.headOnly
      · exact hsame

end Handle

/-! ### Sessions -/

/-- What can happen while a console is in use: a request comes in, or a timer of the orchestrator
fires. -/
inductive Event where
  | request (o : Occasion) (r : Request)
  | fire (o : Occasion) (t : Timer)

/-- The same happens, but whoever goes through all pipelines may meet them in another order. -/
inductive Event.SameButOrder : Event → Event → Prop where
  | request (o : Occasion) (order : List String) (r : Request) :
      SameButOrder (.request o r) (.request { o with order } r)
  | fire (o : Occasion) (order : List String) (t : Timer) :
      SameButOrder (.fire o t) (.fire { o with order } t)

/-- What a console answers to an event, if anything, and the state after it. A timer that is not set
does not fire. -/
def step (c : Console Orchestrator) (s : Orchestrator) : Event → Option Answer × Orchestrator
  | .request o r =>
    let (a, s) := c.handle o r s
    (some a, s)
  | .fire o t => (none, if t ∈ s.timers then (s.fire o t).2 else s)

/-- What a console answers in a session, and the state after it. -/
def session (c : Console Orchestrator) : List Event → Orchestrator → List Answer × Orchestrator
  | [], s => ([], s)
  | e :: rest, s =>
    let (answer, s) := c.step s e
    let (answers, s) := session c rest s
    (answer.toList ++ answers, s)

/-- The first answer tells the reply to the operation that the first request asks for. -/
theorem session_head {c : Console Orchestrator} {o : Occasion} {r : Request} {rest : List Event}
    {s t : Orchestrator} {op : Operation} {reply : op.Reply}
    (hasked : asked? c.settings r = some (.operation op)) (hmethod : r.method ≠ .head)
    (h : c.backend.perform r.bearer? o op s = (.ok reply, t)) (hshown : op.shown? = none) :
    (c.session (.request o r :: rest) s).1.head? = some (.response (op.response reply)) := by
  show some (c.handle o r s).1 = _
  rw [handle_of_asked hasked]
  dsimp only
  rw [if_neg hmethod, answer, answerOperation_of_ok h hshown]

/-- What is assumed of a session of a console over the orchestrator in its memory: that its requests
are fair, in the states in which they come in. -/
def Fair (settings own : Settings) (rules : Rules) : List Event → Orchestrator → Prop
  | [], _ => True
  | e :: rest, s =>
    (∀ o r, e = .request o r → FairRequest settings rules s o r) ∧
      Fair settings own rules rest ((inMemory own rules).step s e).2

section Session

variable {settings own : Settings} {rules : Rules} {token : Option String} {o : Occasion}
  {op : Operation} {s s' t : Orchestrator}

/-- A refused operation leaves the orchestrator in memory as it is. -/
theorem answerOperation_of_fault {f : Orchestrator.Fault}
    (h : Orchestrator.perform rules o op s = (.error f, s)) (own : Settings) :
    (inMemory own rules).answerOperation token o op s = (f.toErrorBody.response, s) := by
  have hdirect : (inMemory own rules).backend.perform token o op s = (.error f.toErrorBody, s) :=
    Backend.inMemory_of_error h
  exact answerOperation_of_error hdirect

/-- What the console does to the orchestrator in its memory is what the operation does. -/
theorem state_answerOperation_of_ok {reply : op.Reply}
    (h : Orchestrator.perform rules o op s = (.ok reply, t)) (own : Settings) :
    ((inMemory own rules).answerOperation token o op s).2 = t := by
  have hdirect : (inMemory own rules).backend.perform token o op s = (.ok reply, t) :=
    Backend.inMemory_of_ok h
  cases hshown : op.shown? with
  | none => exact congrArg Prod.snd (answerOperation_of_ok hdirect hshown)
  | some id =>
    obtain ⟨p, hp⟩ := Orchestrator.get?_of_shown h hshown
    have hget : Orchestrator.perform rules o (.get id) t = (.ok p, t) :=
      Prod.ext (Orchestrator.get_eq_ok.2 hp) rfl
    have hask : (inMemory own rules).backend.perform token o (.get id) t = (.ok p, t) :=
      Backend.inMemory_of_ok hget
    rw [answerOperation_of_shown hdirect hshown, answerOperation_of_ok hask rfl]

/-- An event leaves every pipeline readable. -/
theorem readable_step {e : Event} (hpoints : (Remote.ofSettings settings).Points)
    (hauth : own.authEnabled = settings.authEnabled) (hs : s.Readable)
    (hfair : ∀ o r, e = .request o r → FairRequest settings rules s o r) :
    ((inMemory own rules).step s e).2.Readable := by
  cases e with
  | fire o t =>
    rw [step]
    dsimp only
    split
    · exact hs.fire o t
    · exact hs
  | request o r =>
    have hfair := hfair o r rfl
    have hasks : asked? (inMemory own rules).settings r = asked? settings r := by
      simp only [asked?, inMemory, read_congr hauth]
    rw [step]
    dsimp only
    rw [state_handle, hasks]
    cases hasked : asked? settings r with
    | none => exact hs
    | some call =>
      cases call with
      | alive | stream | probe => exact hs
      | operation op =>
        have hpasses := passes_of_asked hpoints hfair.fresh hasked (hfair.call _ hasked)
        show ((inMemory own rules).answerOperation r.bearer? o op s).2.Readable
        rcases Orchestrator.perform_cases rules o op s with ⟨reply, t, hop⟩ | ⟨f, hop⟩
        · rw [state_answerOperation_of_ok hop]
          exact hs.perform hfair.fresh hpasses.readable hop
        · rw [answerOperation_of_fault hop]
          exact hs

/-- One event is answered the same. -/
theorem step_alike {e e' : Event} (hpoints : (Remote.ofSettings settings).Points)
    (hauth : own.authEnabled = settings.authEnabled) (hs : s'.Readable)
    (hfair : ∀ o r, e' = .request o r → FairRequest settings rules s' o r) (h : s.Alike s')
    (he : e.SameButOrder e') (cluster : Kafka.Cluster Orchestrator) :
    let proxied := (remote settings (network rules) cluster).step s e
    let direct := (inMemory own rules).step s' e'
    List.Forall₂ SameAnswer proxied.1.toList direct.1.toList ∧ proxied.2.Alike direct.2 := by
  cases he with
  | fire o order t =>
    refine ⟨.nil, ?_⟩
    simp only [step, h.timers.mem_iff]
    split
    · exact h.fire o t
    · exact h
  | request o order r =>
    have hrequest : FairRequest settings rules s' o r := { hfair _ r rfl with }
    obtain ⟨hsame, hstates⟩ := handle_alike hpoints hauth hs hrequest h order cluster
    exact ⟨.cons hsame .nil, hstates⟩

/-- A console in front of an orchestrator is transparent: in a session it gives the same answers as
one over an orchestrator like it, and leaves the two alike, whatever the orders in which the two
orchestrators meet their pipelines. -/
theorem session_transparent (settings own : Settings) (rules : Rules)
    (cluster : Kafka.Cluster Orchestrator) (events events' : List Event) (s s' : Orchestrator)
    (hpoints : (Remote.ofSettings settings).Points)
    (hauth : own.authEnabled = settings.authEnabled) (hs : s'.Readable) (h : s.Alike s')
    (hevents : List.Forall₂ Event.SameButOrder events events')
    (hfair : Fair settings own rules events' s') :
    let proxied := (remote settings (network rules) cluster).session events s
    let direct := (inMemory own rules).session events' s'
    List.Forall₂ SameAnswer proxied.1 direct.1 ∧ proxied.2.Alike direct.2 := by
  -- What is assumed of the events is assumed in the states of the console over its own
  -- orchestrator. The states of the other one are like these.
  induction hevents generalizing s s' with
  | nil => exact ⟨.nil, h⟩
  | cons he _ ih =>
    obtain ⟨hevent, hrest⟩ := hfair
    obtain ⟨hanswer, hstates⟩ := step_alike hpoints hauth hs hevent h he cluster
    have hs' := readable_step hpoints hauth hs hevent
    obtain ⟨hanswers, hlast⟩ := ih _ _ hs' hstates hrest
    exact ⟨List.rel_append hanswer hanswers, hlast⟩

end Session

/-- The settings of a console whose services are in its own network. -/
def nearby : Settings := { apiUrl := "http://api", notificationUrl := some "http://notes" }

/-- A pipeline that runs, and has done so since it was created. -/
def running (id : String) (since : Timestamp) : Pipeline :=
  .ofConfig { id, name := id, source := .null, sink := .null } .running since

/-- A pipeline whose stages are empty is read back. -/
theorem readable_insert_running {t : Table Pipeline} {id : String} (since : Timestamp)
    (h : Orchestrator.Readable { pipelines := t }) (hid : id ≠ "") :
    Orchestrator.Readable { pipelines := t.insert id (running id since) } := by
  have hnull : Json.Codec.opaqueValue.ReadsBack PipelineConfig.stageDepth .null :=
    Json.Codec.readsBack_opaqueValue .null trivial
  exact h.of_insert rfl hid rfl
    ⟨hnull, hnull, Json.Codec.readsBack_none, Json.Codec.readsBack_none, Json.Codec.readsBack_none,
      Json.Codec.readsBack_none⟩

/-- A morning on which the second pipeline is created a minute after the first. -/
def minute (n : Fin 60) : Timestamp :=
  ⟨⟨2025, 2, 12, by decide⟩, 28800 + 60 * n, 0, by omega⟩

/-- The table of two pipelines, as they came in. -/
def invoicesFirst : Orchestrator where
  pipelines := (({} : Table Pipeline).insert "invoices" (running "invoices" (minute 0))).insert
    "orders" (running "orders" (minute 1))

/-- The same table in another order. -/
def ordersFirst : Orchestrator where
  pipelines := (({} : Table Pipeline).insert "orders" (running "orders" (minute 1))).insert
    "invoices" (running "invoices" (minute 0))

theorem invoicesFirst_alike : invoicesFirst.Alike ordersFirst where
  pipelines := by
    intro key
    simp only [invoicesFirst, ordersFirst, Table.get?_insert]
    by_cases hkey : key = "orders"
    · rw [if_pos hkey, if_neg (by rw [hkey]; decide), if_pos hkey]
    · rw [if_neg hkey, if_neg hkey]
  queues := fun _ => rfl
  notifications := rfl
  timers := .refl _

/-- Two pipelines are terminated, time passes, and they are listed and looked up. The one console
tells the newest first, the other one sorts their ids. -/
theorem termination_transparent :
    let o : Occasion := ⟨0, minute 2, "fresh", ["orders", "invoices"]⟩
    let o' : Occasion := { o with order := ["invoices", "orders"] }
    let timer (id : String) : Timer := ⟨id, .terminating, .terminated, 2000, o.time, none⟩
    let events (o : Occasion) : List Event :=
      [.request o { method := .delete, path := "/api/pipeline" }, .fire o (timer "orders"),
        .fire o (timer "invoices"), .request o { method := .get, path := "/api/pipeline" },
        .request o { method := .get, path := "/api/pipeline/orders" }]
    let proxied := (remote nearby (network {}) .deserted).session (events o) invoicesFirst
    let direct := (inMemory { mockMode := true } {}).session (events o') ordersFirst
    List.Forall₂ SameAnswer proxied.1 direct.1 ∧ proxied.2.Alike direct.2 ∧
      proxied.1.head? =
        some (.response (Operation.response .terminateAll ["orders", "invoices"])) ∧
      direct.1.head? =
        some (.response (Operation.response .terminateAll ["invoices", "orders"])) := by
  intro o o' timer events proxied direct
  have hpoints : (Remote.ofSettings nearby).Points := by decide +kernel
  have hempty : Orchestrator.Readable {} := fun _ _ h => nomatch h
  have hreadable : ordersFirst.Readable :=
    readable_insert_running _ (readable_insert_running _ hempty (by decide)) (by decide)
  have hasked : asked? nearby { method := .delete, path := "/api/pipeline" } =
      some (.operation .terminateAll) := rfl
  have herrands (s : Orchestrator) (hs : s.Alike ordersFirst) :
      ∀ errand ∈ s.errands .terminateAll,
        (Remote.ofSettings nearby).Delivers none (Remote.callFor errand) := by
    intro errand herrand
    have hmem : errand ∈ [.list, .act "orders" .terminate, .act "invoices" .terminate] :=
      hs.mem_errands_iff.1 herrand
    simp only [List.mem_cons, List.not_mem_nil, or_false] at hmem
    rcases hmem with rfl | rfl | rfl <;> decide +kernel
  have hterminate :
      FairRequest nearby {} ordersFirst o' { method := .delete, path := "/api/pipeline" } :=
    .of_asked (by decide) hasked ⟨herrands _ (.refl _), trivial, ⟨nofun, nofun⟩, trivial⟩
  have hlist (s : Orchestrator) :
      FairRequest nearby {} s o' { method := .get, path := "/api/pipeline" } := by
    have hasked : asked? nearby { method := .get, path := "/api/pipeline" } =
        some (.operation .list) := rfl
    exact .of_single (by decide) hasked rfl (by decide +kernel) trivial ⟨nofun, nofun⟩ trivial
  have hget (s : Orchestrator) :
      FairRequest nearby {} s o' { method := .get, path := "/api/pipeline/orders" } := by
    have hasked : asked? nearby { method := .get, path := "/api/pipeline/orders" } =
        some (.operation (.get "orders")) := rfl
    exact .of_single (by decide) hasked rfl (by decide +kernel) trivial ⟨nofun, nofun⟩ trivial
  have hsame : List.Forall₂ SameAnswer proxied.1 direct.1 ∧ proxied.2.Alike direct.2 := by
    refine session_transparent nearby { mockMode := true } {} .deserted (events o) (events o')
      invoicesFirst ordersFirst hpoints rfl hreadable invoicesFirst_alike ?_ ⟨?_, ?_, ?_, ?_, ?_,
        trivial⟩
    · exact .cons (.request o o'.order _) (.cons (.fire o o'.order _) (.cons (.fire o o'.order _)
        (.cons (.request o o'.order _) (.cons (.request o o'.order _) .nil))))
    · rintro _ _ ⟨⟩
      exact hterminate
    · rintro _ _ ⟨⟩
    · rintro _ _ ⟨⟩
    · rintro _ _ ⟨⟩
      exact hlist _
    · rintro _ _ ⟨⟩
      exact hget _
  refine ⟨hsame.1, hsame.2, ?_, ?_⟩
  · have hlisted : Remote.listedIds invoicesFirst o = ["orders", "invoices"] := by
      have hsorted : invoicesFirst.list o =
          (invoicesFirst.pipelines.valuesFrom o.order).map Pipeline.listItem :=
        List.mergeSort_of_pairwise (by decide +kernel)
      rw [Remote.listedIds, hsorted]
      decide +kernel
    have hids : (Orchestrator.terminateEach {} o ["orders", "invoices"] invoicesFirst).1 =
        ["orders", "invoices"] := by
      decide +kernel
    let left := (Orchestrator.terminateEach {} o ["orders", "invoices"] invoicesFirst).2
    have hperform : (remote nearby (network {}) .deserted).backend.perform none o .terminateAll
        invoicesFirst = (.ok ["orders", "invoices"], left) := by
      rw [backend_remote, Remote.terminateAll_eq hpoints (hreadable.of_alike invoicesFirst_alike)
        (by decide) (herrands _ invoicesFirst_alike), hlisted, hids]
    exact session_head hasked (by decide) hperform rfl
  · have hids : (Orchestrator.terminateEach {} o' (ordersFirst.candidates o') ordersFirst).1 =
        ["invoices", "orders"] := by
      decide +kernel
    have hsorted : (ordersFirst.terminateAll {} o').1 = ["invoices", "orders"] := by
      have hmerge : ["invoices", "orders"].mergeSort (· ≤ ·) = ["invoices", "orders"] :=
        List.mergeSort_of_pairwise (by decide)
      exact (congrArg (List.mergeSort · (· ≤ ·)) hids).trans hmerge
    have hperform : (inMemory { mockMode := true } {}).backend.perform none o' .terminateAll
        ordersFirst = (.ok (ordersFirst.terminateAll {} o').1, _) := rfl
    rw [hsorted] at hperform
    exact session_head hasked (by decide) hperform rfl

/-! ### The notification that cannot be addressed -/

/-- The status of an answer, if it is a response. -/
def Answer.status? : Answer → Option UInt16
  | response r => some r.status
  | stream _ => none

theorem SameAnswer.status?_eq {a a' : Answer} (h : SameAnswer a a') : a.status? = a'.status? := by
  cases h with
  | refl => rfl
  | reply h => cases h <;> rfl

/-- A notification with the name of a route is not there for the one console, and not to be asked
for by the other. -/
theorem reserved_notification_differs :
    let o : Occasion := ⟨0, ⟨⟨2025, 3, 2, by decide⟩, 36000, 0, by decide⟩, "fresh", []⟩
    let r : Request := { method := .get, path := "/api/notifications/mark%2Dread" }
    let op : Operation := .getNotification "mark-read"
    let proxied := (remote nearby (network {}) .deserted).session [.request o r] {}
    let direct := (inMemory { mockMode := true } {}).session [.request o r] {}
    (Remote.ofSettings nearby).Points ∧ asked? nearby r = some (.operation op) ∧
      (Remote.ofSettings nearby).Delivers none (Remote.callFor op) ∧
      proxied.1.map Answer.status? = [some 405] ∧ direct.1.map Answer.status? = [some 404] ∧
      ¬ List.Forall₂ SameAnswer proxied.1 direct.1 := by
  intro o r op proxied direct
  have hasked : asked? nearby { method := .get, path := "/api/notifications/mark%2Dread" } =
      some (.operation (.getNotification "mark-read")) := by rfl
  -- The address holds the decoded id, and so the orchestrator finds another route there.
  have hproxied : proxied.1.map Answer.status? = [some 405] := by decide +kernel
  have hdirect : direct.1.map Answer.status? = [some 404] := by decide +kernel
  refine ⟨by decide +kernel, hasked, by decide +kernel, hproxied, hdirect, fun h => ?_⟩
  have hsame : proxied.1.map Answer.status? = direct.1.map Answer.status? := by
    rw [← List.forall₂_eq_eq_eq, List.forall₂_map_left_iff, List.forall₂_map_right_iff]
    exact h.imp fun _ _ => SameAnswer.status?_eq
  rw [hproxied, hdirect] at hsame
  exact absurd hsame (by decide)

end PipelineConsole.Console
