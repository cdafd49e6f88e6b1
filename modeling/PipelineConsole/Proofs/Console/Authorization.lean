import PipelineConsole.Proofs.Console.IdList
import PipelineConsole.Proofs.Console.InUse
import PipelineConsole.Proofs.Console.Refusals
import PipelineConsole.Proofs.Http.Route
import Mathlib.Data.List.DropRight

/-!
# Callers and their tokens

Authorization is not looked at in one place: each endpoint does so when it reads what a request asks
for, some of them only after the id in the path or the query. Whatever the order, a request without
token gets nowhere. It is refused before anything is performed, and so the refusal is the same for
every backend.

A console over a network hands the token on. Whatever callers it serves, and in whatever order,
every request that it sends has the token of the caller that it is sent for.

## Main results

* `Operation.Kind.read_of_unauthorized`, `Console.read_of_unauthorized` — nothing is read from a
  request without token
* `Request.bearer?_of_carries` — a token that is handed on is read back
* `Console.tokens_guard_and_pass` — nothing is done without a token, and tokens are passed on
-/

namespace PipelineConsole

open Http (Network Outgoing Rejection Request Response Route)

/-! ### Requests without token -/

/-- Nothing that is refused tells of success. -/
def Refuses {α : Type} (x : Except Response α) : Prop :=
  ∃ response, x = .error response ∧ response.isSuccess = false

section Refuses

variable {α β : Type} {x : Except Response α}

theorem Refuses.bind (h : Refuses x) (f : α → Except Response β) : Refuses (x >>= f) := by
  obtain ⟨response, rfl, hresponse⟩ := h
  exact ⟨response, rfl, hresponse⟩

/-- What comes before a refusal may only be refused itself. -/
theorem Refuses.after {f : α → Except Response β} (hx : ∀ response, x = .error response →
    response.isSuccess = false) (hf : ∀ a, Refuses (f a)) : Refuses (x >>= f) := by
  cases x with
  | error response => exact ⟨response, rfl, hx response rfl⟩
  | ok a => exact hf a

/-- A rejection is no success. -/
theorem isSuccess_of_rejected {y : Except Rejection α} {response : Response}
    (h : y.mapError Rejection.response = .error response) : response.isSuccess = false := by
  cases y with
  | ok a => cases h
  | error rejection =>
    obtain rfl := Except.error.inj h
    cases rejection <;> rfl

end Refuses

namespace Operation.Kind

/-- No operation is read for those who are not authorized. -/
theorem read_of_unauthorized {authorized : Except Response Unit} (h : Refuses authorized)
    (kind : Kind) (r : Request) (parameters : List String) :
    Refuses (kind.read r parameters authorized) := by
  cases kind with
  | create | list | terminateAll | platform | checkFilter | evaluateTransform | markRead =>
    exact h.bind _
  | listNotifications =>
    exact .after (fun _ => isSuccess_of_rejected) fun _ => h.bind _
  | consume =>
    exact .after (fun _ => isSuccess_of_rejected) fun _ =>
      .after (fun _ => isSuccess_of_rejected) fun _ => h.bind _
  | _ => exact .after (fun _ => isSuccess_of_rejected) fun _ => h.bind _

end Operation.Kind

namespace Console

variable {settings : Settings} {r : Request}

theorem authorize_of_none (hauth : settings.authEnabled = true) (h : r.bearer? = none) :
    Refuses (authorize settings r) := by
  refine ⟨unauthorized.response, if_pos ?_, rfl⟩
  rw [hauth, h]
  rfl

/-- At every endpoint but one, nothing is read for those who are not authorized. -/
theorem read_of_unauthorized (hauth : settings.authEnabled = true) (h : r.bearer? = none)
    {e : Endpoint} (he : e ≠ .alive) (parameters : List String) :
    Refuses (read settings e r parameters) := by
  have hrefuses := authorize_of_none hauth h
  cases e with
  | alive => exact absurd rfl he
  | statusStream | probe => exact hrefuses.bind _
  | operation kind => exact (kind.read_of_unauthorized hrefuses r parameters).bind _

/-- That endpoint has one path. -/
theorem path_of_alive {parameters : List String}
    (h : Route.dispatch routes r.method r.path = .endpoint .alive parameters) :
    r.path = "/healthz" := by
  obtain ⟨route, hroute, halive, parts, hpath, hparts⟩ := Route.exists_of_dispatch h
  -- Of all routes only one has the endpoint, and nothing in it is left open.
  have hroutes : ∀ route ∈ routes, .alive ∈ route.endpoints.map Prod.snd →
      route.path = [.literal "healthz"] := by decide
  rw [hroutes route hroute halive] at hparts
  have honly : parts = ["healthz"] := by
    cases parts with
    | nil => cases hparts
    | cons part rest =>
      rw [Route.matchParts?] at hparts
      split at hparts
      · next heq =>
        cases rest with
        | nil => rw [heq]
        | cons => cases hparts
      · cases hparts
  exact Route.eq_of_parts?_singleton (honly ▸ hpath)

/-- A request without token is refused, and nothing is done. -/
theorem handle_of_unauthorized (hauth : settings.authEnabled = true) (h : r.bearer? = none)
    (hpath : r.path ≠ "/healthz") :
    ∃ refusal : Response, refusal.isSuccess = false ∧
      ∀ {σ : Type} (c : Console σ), c.settings = settings → ∀ (o : Occasion) (s : σ),
        c.handle o r s = (.response refusal, s) := by
  cases hdispatch : Route.dispatch routes r.method r.path with
  | unknownPath =>
    refine ⟨{ status := 404 }, rfl, fun c _ o s => ?_⟩
    simp only [handle, hdispatch]
  | unknownMethod known =>
    refine ⟨{ status := 405, allow := known }, rfl, fun c _ o s => ?_⟩
    simp only [handle, hdispatch]
  | endpoint e parameters =>
    have he : e ≠ .alive := by
      rintro rfl
      exact hpath (path_of_alive hdispatch)
    obtain ⟨response, hread, hresponse⟩ := read_of_unauthorized hauth h he parameters
    refine ⟨if r.method = .head then response.withoutContent else response, ?_,
      fun c hsettings o s => ?_⟩
    · split <;> exact hresponse
    · subst hsettings
      simp only [handle, hdispatch, hread]
      split <;> rfl

end Console

/-! ### Tokens that are handed on -/

namespace Http.Request

variable {r : Request} {token : String}

/-- The header that counts is the first with its name. -/
theorem header?_eq_head? (r : Request) (name : String) :
    r.header? name =
      (r.headers.filter (fun header => header.1 = name)).head?.map Prod.snd := by
  rw [header?]
  induction r.headers with
  | nil => rfl
  | cons header rest ih =>
    rw [List.lookup_cons]
    by_cases h : header.1 = name
    · simp [h]
    · simpa [h, beq_eq_false_iff_ne.2 (Ne.symm h)] using ih

/-- A token is visible, and no blank comes first in it. -/
theorem of_bearer?_eq_some (h : r.bearer? = some token) :
    token.toList.all isVisible = true ∧ Text.dropBlanks token.toList = token.toList := by
  unfold bearer? at h
  obtain ⟨value, -, h⟩ := Option.bind_eq_some_iff.1 h
  obtain ⟨_, hvisible, h⟩ := Option.bind_eq_some_iff.1 h
  obtain ⟨_, -, h⟩ := Option.bind_eq_some_iff.1 h
  split at h
  · next rest hrest =>
    obtain rfl := Option.some.inj h
    rw [String.toList_ofList]
    refine ⟨List.all_eq_true.2 fun c hc => ?_, List.dropWhile_idempotent _ _⟩
    have hall : value.toList.all isVisible = true := by
      by_contra hne
      simp [guard, hne] at hvisible
    have hdrop : c ∈ value.toList.drop bearerScheme.length :=
      hrest ▸ List.mem_cons_of_mem _ ((List.dropWhile_suffix _).subset hc)
    exact List.all_eq_true.1 hall c (List.mem_of_mem_drop hdrop)
  · cases h

/-- Such a token is read back from the header that it is written to. -/
theorem bearer?_of_header? (h : r.header? "authorization" = some ("Bearer " ++ token))
    (hvisible : token.toList.all isVisible = true)
    (hblanks : Text.dropBlanks token.toList = token.toList) : r.bearer? = some token := by
  have hscheme : ("Bearer " ++ token).toList = "Bearer ".toList ++ token.toList :=
    String.toList_append
  have hall : ("Bearer " ++ token).toList.all isVisible = true := by
    rw [hscheme, List.all_append, hvisible]
    decide
  have htake : ((("Bearer " ++ token).toList.take bearerScheme.length).map Char.toLower) =
      bearerScheme := by
    rw [hscheme]
    rfl
  have hdrop : ("Bearer " ++ token).toList.drop bearerScheme.length = ' ' :: token.toList := by
    rw [hscheme]
    rfl
  simp only [bearer?, h, bind, Option.bind, hall, htake, hdrop, guard, if_true, hblanks,
    String.ofList_toList]
  rfl

/-- A token that is handed on is read back, and without a token none is read. -/
theorem bearer?_of_carries {out : Outgoing} (h : out.Carries r.bearer?) :
    out.request.bearer? = r.bearer? := by
  have hlookup : out.request.header? "authorization" =
      (r.bearer?.map Outgoing.bearer).map Prod.snd := by
    rw [header?_eq_head?]
    show (out.headers.filter _).head?.map Prod.snd = _
    rw [h]
    cases r.bearer? <;> rfl
  cases hbearer : r.bearer? with
  | none =>
    rw [hbearer] at hlookup
    rw [bearer?, hlookup]
    rfl
  | some token =>
    rw [hbearer] at hlookup
    obtain ⟨hvisible, hblanks⟩ := of_bearer?_eq_some hbearer
    exact bearer?_of_header? hlookup hvisible hblanks

end Http.Request

namespace Console

variable {σ : Type} {settings : Settings} {n : Network σ} {cluster : Kafka.Cluster σ}

/-- In the course of time, every request that is sent has the token of the request that it
serves. -/
theorem carries_of_exchanged {u : InUse σ} (hu : u.Honest) (events : List Happening)
    {served : Option Request} {out : Outgoing}
    (h : (served, out) ∈ exchanged settings n cluster events u) :
    ∃ r, served = some r ∧ out.Carries r.bearer? := by
  -- Over what happens: every stream that is open keeps its token in the meantime.
  induction events generalizing u with
  | nil => cases h
  | cons e rest ih =>
    rcases List.mem_append.1 h with h | h
    · obtain ⟨sent, hsent, heq⟩ := List.mem_map.1 h
      obtain ⟨rfl, rfl⟩ := Prod.mk.inj heq
      have hcarries := Remote.carries_of_sends (sends_of_asks hsent)
      rw [hu.token?_eq] at hcarries
      cases hserved : u.served? e with
      | none =>
        rw [asks_of_unserved hserved] at hsent
        cases hsent
      | some r => exact ⟨r, rfl, by simpa only [hserved, Option.bind_some] using hcarries⟩
    · exact ih (hu.happen _ e) h

/-- If authorization is on, a request without token to any path but one is refused, and nothing is
done: the refusal is the same whatever performs operations and probes, and leaves its state as it
is. And whatever happens to a console over a network, every request that it sends to a service
serves a request that has come in. It has the token of that request and no other, and none if that
has none. -/
theorem tokens_guard_and_pass (settings : Settings) :
    (settings.authEnabled = true → ∀ r : Request, r.bearer? = none → r.path ≠ "/healthz" →
      ∃ refusal : Response, refusal.isSuccess = false ∧
        ∀ {σ : Type} (c : Console σ), c.settings = settings → ∀ (o : Occasion) (s : σ),
          c.handle o r s = (.response refusal, s)) ∧
    ∀ {σ : Type} (n : Network σ) (cluster : Kafka.Cluster σ) (events : List Happening) (s : σ),
      ∀ entry ∈ exchanged settings n cluster events { state := s }, ∃ r, entry.1 = some r ∧
        entry.2.headers.filter (fun header => header.1 = "authorization") =
          (r.bearer?.map Outgoing.bearer).toList ∧
        entry.2.request.bearer? = r.bearer? := by
  refine ⟨fun hauth r hnone hpath => handle_of_unauthorized hauth hnone hpath,
    fun n cluster events s entry hentry => ?_⟩
  have hhonest : InUse.Honest { state := s } := nofun
  obtain ⟨r, hr, hcarries⟩ := carries_of_exchanged hhonest events hentry
  exact ⟨r, hr, hcarries, Request.bearer?_of_carries hcarries⟩

/-- Somebody without token asks for all pipelines to be terminated, and somebody with a token
follows one of them. -/
theorem stranger_refused :
    let settings : Settings := { authEnabled := true }
    let o : Occasion := ⟨0, ⟨⟨2025, 3, 4, by decide⟩, 36000, 0, by decide⟩, "fresh", []⟩
    let stranger : Request := { method := .delete, path := "/api/pipeline" }
    let follower : Request := {
      method := .get
      path := "/api/pipeline/status/stream"
      query := "pipeline_ids=orders"
      headers := [("authorization", "bearer  key")] }
    let sent := exchanged settings .deserted .deserted
      [.request o stranger, .request o follower, .round o (fun _ => o.time) 0] { state := () }
    (∃ refusal : Response, refusal.isSuccess = false ∧
      (inMemory settings {}).handle o stranger oneRunning = (.response refusal, oneRunning)) ∧
    sent.map (fun entry => (entry.1, entry.2.request.path)) =
      [(some follower, "/api/v1/pipeline/orders/health")] ∧
    ∀ entry ∈ sent, entry.2.request.bearer? = some "key" := by
  intro settings o stranger follower sent
  have hsent : sent.map (fun entry => (entry.1, entry.2.request.path)) =
      [(some follower, "/api/v1/pipeline/orders/health")] := by decide +kernel
  obtain ⟨hguard, hpass⟩ := tokens_guard_and_pass settings
  obtain ⟨refusal, hrefusal, hhandle⟩ := hguard rfl stranger (by decide) (by decide)
  refine ⟨⟨refusal, hrefusal, hhandle (inMemory settings {}) rfl o oneRunning⟩, hsent,
    fun entry hentry => ?_⟩
  obtain ⟨r, hr, -, htoken⟩ := hpass _ _ _ () entry hentry
  have hpair : (entry.1, entry.2.request.path) ∈
      [(some follower, "/api/v1/pipeline/orders/health")] :=
    hsent ▸ List.mem_map_of_mem hentry
  obtain rfl : r = follower := by
    have hserved := (Prod.mk.inj (List.mem_singleton.1 hpair)).1
    exact Option.some.inj (hr.symm.trans hserved)
  rw [htoken]
  decide

end Console

end PipelineConsole
