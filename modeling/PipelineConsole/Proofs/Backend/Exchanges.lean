import PipelineConsole.Backend.Remote
import PipelineConsole.Proofs.Except

/-!
# What a backend exchanges with the services

A remote backend performs an operation by exchanging requests and answers with the services. Two
networks are compared along the way, from states that are related: as long as what the backend makes
of their answers is the same, it asks both of them for the same things and replies the same. Of an
answer that tells of an internal error the backend takes nothing but that.

The comparison serves two ends. A network may be compared with one that keeps a record of the
requests, to learn what is sent; and networks may be compared that tell different things of internal
errors, to learn that the difference does not show.

## Main definitions

* `Together` — steps with the same results from related states
* `Http.SameUnlessInternal`, `Http.Network.AgreeOn` — networks with the same answers, internal
  errors apart
* `Http.Network.recording`, `Http.Recorded` — a network that keeps a record of requests
* `Remote.Sends`, `Http.Outgoing.Carries` — the requests for a caller, and their token

## Main results

* `Http.Network.AgreeOn.recording` — networks that agree are asked for the same things
* `Remote.perform_together` — and replies to an operation are the same
* `Remote.carries_of_sends` — a request has the token of the caller, or none if the caller has none
-/

namespace PipelineConsole

variable {σ τ α : Type} {R : σ → τ → Prop}

/-! ### Steps from related states -/

/-- Two steps go together: from related states they have the same result and lead to related
states. -/
def Together (R : σ → τ → Prop) (f : σ → α × σ) (g : τ → α × τ) : Prop :=
  ∀ s t, R s t → (f s).1 = (g t).1 ∧ R (f s).2 (g t).2

/-- A step goes together with itself. -/
theorem Together.refl (f : σ → α × σ) : Together Eq f f := by
  rintro s t rfl
  exact ⟨rfl, rfl⟩

/-- What the steps do from two states. -/
theorem Together.exists_result {f : σ → α × σ} {g : τ → α × τ} (h : Together R f g) {s : σ} {t : τ}
    (hst : R s t) : ∃ a s' t', f s = (a, s') ∧ g t = (a, t') ∧ R s' t' := by
  obtain ⟨hsame, hstates⟩ := h s t hst
  exact ⟨(f s).1, (f s).2, (g t).2, rfl, by rw [hsame], hstates⟩

namespace Http

/-! ### Requests -/

/-- The only authorization of a request is a token, or there is none. -/
def Outgoing.Carries (token : Option String) (out : Outgoing) : Prop :=
  out.headers.filter (fun header => header.1 = "authorization") =
    (token.map Outgoing.bearer).toList

/-! ### Networks -/

/-- Two answers are the same, but if both tell of an internal error they may differ in what they say
of it. -/
inductive SameUnlessInternal : Except Failure Incoming → Except Failure Incoming → Prop where
  | refl (a : Except Failure Incoming) : SameUnlessInternal a a
  | internal {a b : Incoming} (ha : a.status = 500) (hb : b.status = 500) :
      SameUnlessInternal (.ok a) (.ok b)

namespace Network

variable {P : Outgoing → Prop} {n : Network σ} {m : Network τ}

/-- Two networks agree on some requests: from related states they answer them the same, internal
errors apart, and come to related states. -/
def AgreeOn (P : Outgoing → Prop) (R : σ → τ → Prop) (n : Network σ) (m : Network τ) : Prop :=
  ∀ o out s t, P out → R s t →
    SameUnlessInternal (n.exchange o out s).1 (m.exchange o out t).1 ∧
      R (n.exchange o out s).2 (m.exchange o out t).2

/-- A network agrees with itself. -/
theorem AgreeOn.refl (n : Network σ) : n.AgreeOn P Eq n := by
  rintro o out s t - rfl
  exact ⟨.refl _, rfl⟩

/-- A request that cannot be sent reaches neither of two networks. -/
theorem AgreeOn.send (h : n.AgreeOn P R m) {out : Outgoing} (hout : P out) (o : Occasion) {s : σ}
    {t : τ} (hst : R s t) :
    SameUnlessInternal (n.send o out s).1 (m.send o out t).1 ∧
      R (n.send o out s).2 (m.send o out t).2 := by
  unfold Network.send
  split
  · exact h o out s t hout hst
  · exact ⟨.refl _, hst⟩

/-- A network with a record of the requests that have reached it. -/
def recording (n : Network σ) : Network (List Outgoing × σ) where
  exchange o out s :=
    let (answer, rest) := n.exchange o out s.2
    (answer, (s.1 ++ [out], rest))

/-- The record changes nothing. -/
theorem recording_agreeOn (n : Network σ) : n.recording.AgreeOn P (fun s t => s.2 = t) n := by
  rintro o out ⟨record, s⟩ t - rfl
  exact ⟨.refl _, rfl⟩

end Network

/-- Two states with the same record of some kind of requests, and related otherwise. -/
structure Recorded (P : Outgoing → Prop) (R : σ → τ → Prop) (x : List Outgoing × σ)
    (y : List Outgoing × τ) : Prop where
  same : x.1 = y.1
  kind : ∀ out ∈ x.1, P out
  states : R x.2 y.2

/-- Networks that agree are asked for the same things. -/
theorem Network.AgreeOn.recording {P : Outgoing → Prop} {n : Network σ} {m : Network τ}
    (h : n.AgreeOn P R m) : n.recording.AgreeOn P (Recorded P R) m.recording := by
  rintro o out ⟨record, s⟩ ⟨record', t⟩ hout ⟨rfl, hkind, hst⟩
  obtain ⟨hanswer, hstates⟩ := h o out s t hout hst
  refine ⟨hanswer, rfl, fun sent hsent => ?_, hstates⟩
  rcases List.mem_append.1 hsent with hsent | hsent
  · exact hkind sent hsent
  · exact List.mem_singleton.1 hsent ▸ hout

end Http

/-! ### Terminating all pipelines -/

namespace Termination

/-- Pipelines are terminated the same, one after the other. -/
theorem each_together {terminate : String → σ → Except ErrorBody Status × σ}
    {terminate' : String → τ → Except ErrorBody Status × τ}
    (h : ∀ id, Together R (terminate id) (terminate' id)) (ps : List Pipeline.ListItem) :
    Together R (each terminate ps) (each terminate' ps) := by
  induction ps with
  | nil => exact fun s t hst => ⟨rfl, hst⟩
  | cons p ps ih =>
    intro s t hst
    unfold each
    split
    · obtain ⟨reply, s', t', hs, ht, hst'⟩ := (h p.id).exists_result hst
      rw [hs, ht]
      cases reply with
      | error e => exact ih s' t' hst'
      | ok status =>
        obtain ⟨hids, hstates⟩ := ih s' t' hst'
        exact ⟨congrArg (p.id :: ·) hids, hstates⟩
    · exact ih s t hst

/-- All pipelines are terminated the same. -/
theorem all_together {list : σ → Except ErrorBody (List Pipeline.ListItem) × σ}
    {list' : τ → Except ErrorBody (List Pipeline.ListItem) × τ}
    {terminate : String → σ → Except ErrorBody Status × σ}
    {terminate' : String → τ → Except ErrorBody Status × τ} (hlist : Together R list list')
    (h : ∀ id, Together R (terminate id) (terminate' id)) :
    Together R (all list terminate) (all list' terminate') := by
  intro s t hst
  obtain ⟨reply, s', t', hs, ht, hst'⟩ := hlist.exists_result hst
  simp only [all, hs, ht]
  cases reply with
  | error e => exact ⟨rfl, hst'⟩
  | ok ps =>
    obtain ⟨hids, hstates⟩ := each_together h ps s' t' hst'
    exact ⟨congrArg Except.ok hids, hstates⟩

end Termination

namespace Remote

open Http (Incoming Network Outgoing SameUnlessInternal)

variable {r : Remote} {token : Option String} {o : Occasion} {n : Network σ} {m : Network τ}

/-! ### Requests for a caller -/

/-- A request that the backend sends for a caller. -/
def Sends (r : Remote) (token : Option String) (out : Outgoing) : Prop :=
  ∃ c, r.outgoing token c = .ok out

/-- Its headers are the token of the caller, if there is one, and the kind of the document, if there
is one. -/
theorem headers_of_sends {out : Outgoing} (h : r.Sends token out) :
    out.headers = (token.map Outgoing.bearer).toList ∨
      out.headers =
        (token.map Outgoing.bearer).toList ++ [("content-type", "application/json")] := by
  obtain ⟨c, hc⟩ := h
  obtain ⟨base, -, hc⟩ := bind_eq_ok.1 hc
  obtain ⟨url, -, hc⟩ := bind_eq_ok.1 hc
  obtain rfl := Except.ok.inj hc
  cases c.document with
  | none => exact .inl (List.append_nil _)
  | some document =>
    refine .inr ?_
    show (_ ++ []) ++ _ = _
    rw [List.append_nil]

/-- Its only authorization is the token of the caller. -/
theorem carries_of_sends {out : Outgoing} (h : r.Sends token out) : out.Carries token := by
  unfold Outgoing.Carries
  rcases headers_of_sends h with h | h <;> rw [h] <;> cases token <;> rfl

/-! ### Operations -/

/-- Nothing of an internal error is understood but that it is one. -/
theorem understood_eq (understand : Incoming → Except ErrorBody α)
    {a b : Except Http.Failure Incoming} (h : SameUnlessInternal a b) :
    understood understand a = understood understand b := by
  cases h with
  | refl a => rfl
  | @internal a b ha hb =>
    have hrefused (a : Incoming) (ha : a.status = 500) :
        understood understand (.ok a) = .error .internal := by
      simp only [understood, Incoming.isSuccess, refused, BackendFault.toErrorBody, ha]
      rfl
    rw [hrefused a ha, hrefused b hb]

variable (h : n.AgreeOn (r.Sends token) R m)

include h

/-- A call is answered the same. -/
theorem ask_together (o : Occasion) (c : Call) (understand : Incoming → Except ErrorBody α) :
    Together R (r.ask n token o c understand) (r.ask m token o c understand) := by
  intro s t hst
  unfold ask
  cases hout : r.outgoing token c with
  | error e => exact ⟨rfl, hst⟩
  | ok out =>
    obtain ⟨hanswer, hstates⟩ := h.send ⟨c, hout⟩ o hst
    exact ⟨understood_eq understand hanswer, hstates⟩

/-- An operation is performed the same. -/
theorem perform_together (o : Occasion) (op : Operation) :
    Together R (r.perform n token o op) (r.perform m token o op) := by
  cases op with
  | terminateAll =>
    simp only [perform]
    exact Termination.all_together (ask_together h o _ _) fun id => ask_together h o _ _
  | _ =>
    simp only [perform]
    exact ask_together h o _ _

end Remote

end PipelineConsole
