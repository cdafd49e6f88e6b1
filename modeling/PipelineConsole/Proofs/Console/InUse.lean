import PipelineConsole.Console.Remote
import PipelineConsole.Proofs.Backend.Exchanges
import PipelineConsole.StatusStream.Ticking

/-!
# A console in use

A console is in use by many callers: requests come in, in any order, and some of them open streams
that are told of their pipelines in rounds until somebody hangs up. Every operation is performed for
the caller of one request. Of a console over a network it is recorded which requests it sends
meanwhile, and for which of the requests that have come in.

## Main definitions

* `Console.Agree` — consoles that perform operations and probes the same for a caller
* `Console.InUse`, `Console.Happening`, `Console.happen` — a console in use, and what happens to it
* `Console.serve` — what callers are told in the course of time
* `Console.asks`, `Console.exchanged` — the requests that are sent meanwhile
* `InUse.Honest` — every stream is checked with the token of the request that opened it

## Main results

* `Console.handle_together`, `Console.happen_together` — consoles that agree tell their callers the
  same
* `Console.happen_recording` — keeping a record changes nothing
* `Console.asks_together` — networks that agree are asked for the same things, in the name of the
  caller
* `InUse.Honest.happen` — every stream keeps the token of the request that opened it
-/

namespace PipelineConsole.Console

open Http (Network Outgoing Recorded Request Route)

variable {σ τ : Type} {R : σ → τ → Prop} {c : Console σ} {d : Console τ} {token : Option String}

/-! ### Consoles that agree -/

/-- Two consoles perform operations and probes the same for a caller with a token, or for those
without one. -/
structure Agree (token : Option String) (R : σ → τ → Prop) (c : Console σ) (d : Console τ) :
    Prop where
  settings : c.settings = d.settings
  perform : ∀ o op, Together R (c.backend.perform token o op) (d.backend.perform token o op)
  probe : ∀ o p, Together R (c.probe o p) (d.probe o p)

/-- An operation is answered the same. -/
theorem answerOperation_together (h : c.Agree token R d) (o : Occasion) (op : Operation) :
    Together R (c.answerOperation token o op) (d.answerOperation token o op) := by
  intro s t hst
  obtain ⟨reply, s', t', hs, ht, hst'⟩ := (h.perform o op).exists_result hst
  simp only [answerOperation, hs, ht]
  cases reply with
  | error e => exact ⟨rfl, hst'⟩
  | ok reply =>
    cases op.shown? with
    | none => exact ⟨rfl, hst'⟩
    | some id =>
      obtain ⟨shown, s'', t'', hs', ht', hst''⟩ := (h.perform o (.get id)).exists_result hst'
      simp only [hs', ht']
      cases shown <;> exact ⟨rfl, hst''⟩

/-- So is whatever a request asks for. -/
theorem answer_together (h : c.Agree token R d) (o : Occasion) (call : Call) :
    Together R (c.answer token o call) (d.answer token o call) := by
  intro s t hst
  cases call with
  | alive | stream => exact ⟨rfl, hst⟩
  | operation op =>
    obtain ⟨hresponse, hstates⟩ := answerOperation_together h o op s t hst
    exact ⟨congrArg Answer.response hresponse, hstates⟩
  | probe p =>
    obtain ⟨hreply, hstates⟩ := h.probe o p s t hst
    exact ⟨congrArg (fun reply => Answer.response (probeResponse p reply)) hreply, hstates⟩

/-- A request is answered the same. -/
theorem handle_together {r : Request} (h : c.Agree r.bearer? R d) (o : Occasion) :
    Together R (c.handle o r) (d.handle o r) := by
  intro s t hst
  unfold handle
  cases Route.dispatch routes r.method r.path with
  | unknownPath | unknownMethod => exact ⟨rfl, hst⟩
  | endpoint e parameters =>
    simp only [h.settings]
    cases read d.settings e r parameters with
    | error response => exact ⟨rfl, hst⟩
    | ok call =>
      obtain ⟨a, s', t', hs, ht, hst'⟩ := (answer_together h o call).exists_result hst
      simp only [hs, ht]
      exact ⟨trivial, hst'⟩

/-- The pipelines of a stream are checked with the same results. -/
theorem checkAll_together {w : Watch} (h : c.Agree w.token R d) (o : Occasion) (ids : List String) :
    Together R (c.checkAll w o ids) (d.checkAll w o ids) := by
  induction ids with
  | nil => exact fun s t hst => ⟨rfl, hst⟩
  | cons id ids ih =>
    intro s t hst
    obtain ⟨reply, s', t', hs, ht, hst'⟩ := (h.perform o (.health id)).exists_result hst
    obtain ⟨results, s'', t'', hs', ht', hst''⟩ := ih.exists_result hst'
    simp only [checkAll, hs, ht, hs', ht']
    exact ⟨trivial, hst''⟩

/-! ### In use -/

/-- A stream that somebody listens to, with the request that opened it. -/
structure Listening where
  opener : Request
  watch : Watch
  ticking : TickingFeed

/-- A console in use: the streams that are open, and the state of what it works on. -/
structure InUse (σ : Type) where
  streams : List Listening := []
  state : σ

/-- What happens to a console in use: a request comes in, a stream has its next round or sends a
heartbeat, or somebody hangs up. Streams are given by their place among those that are open, and a
round comes with what the clock shows as its events are written. -/
inductive Happening where
  | request (o : Occasion) (r : Request)
  | round (o : Occasion) (clock : Nat → Timestamp) (place : Nat)
  | heartbeat (o : Occasion) (place : Nat)
  | hangUp (place : Nat)

/-- What a caller is told: the answer to a request, or events of a stream. -/
inductive Told where
  | answer (a : Answer)
  | events (es : List StatusEvent)

/-- The stream that an answer opens. -/
def Answer.opened (settings : Settings) (o : Occasion) (r : Request) : Answer → List Listening
  | .response _ => []
  | .stream w =>
    [⟨r, w, .start w.ids settings.pollInterval settings.heartbeatInterval o.elapsed⟩]

theorem Answer.of_mem_opened {settings : Settings} {o : Occasion} {r : Request} {a : Answer}
    {l : Listening} (h : l ∈ a.opened settings o r) :
    ∃ w, a = .stream w ∧ r = l.opener ∧ w = l.watch := by
  cases a with
  | response response => cases h
  | stream w =>
    obtain rfl := List.mem_singleton.1 h
    exact ⟨w, rfl, rfl, rfl⟩

/-- What a caller is told when something happens, if anything, and the console afterwards. -/
def happen (c : Console σ) (u : InUse σ) : Happening → Option Told × InUse σ
  | .request o r =>
    let (a, state) := c.handle o r u.state
    (some (.answer a), { streams := u.streams ++ a.opened c.settings o r, state })
  | .round o clock place =>
    match u.streams[place]? with
    | none => (none, u)
    | some l =>
      let (results, state) := c.checkAll l.watch o l.ticking.ids u.state
      let (ticking, events) := (l.ticking.beginRound o.elapsed).finish results clock
      (some (.events events), { streams := u.streams.set place { l with ticking }, state })
  | .heartbeat o place =>
    match u.streams[place]? with
    | none => (none, u)
    | some l =>
      let (ticking, events) := l.ticking.beat o.elapsed o.time
      (some (.events events), { u with streams := u.streams.set place { l with ticking } })
  | .hangUp place => (none, { u with streams := u.streams.eraseIdx place })

/-- What callers are told in the course of time, and the console afterwards. -/
def serve (c : Console σ) : List Happening → InUse σ → List Told × InUse σ
  | [], u => ([], u)
  | e :: rest, u =>
    let (told, u) := c.happen u e
    let (later, u) := serve c rest u
    (told.toList ++ later, u)

namespace InUse

variable {u : InUse σ} {v : InUse τ} {e : Happening}

/-- The request that is served when something happens. A round serves the one that has opened the
stream. -/
def served? (u : InUse σ) : Happening → Option Request
  | .request _ r => some r
  | .round _ _ place => u.streams[place]?.map Listening.opener
  | .heartbeat .. | .hangUp _ => none

/-- The token that operations are performed with. -/
def token? (u : InUse σ) : Happening → Option String
  | .request _ r => r.bearer?
  | .round _ _ place => u.streams[place]?.bind fun l => l.watch.token
  | .heartbeat .. | .hangUp _ => none

/-- Two consoles in use have the same streams and related states. -/
structure Related (R : σ → τ → Prop) (u : InUse σ) (v : InUse τ) : Prop where
  streams : u.streams = v.streams
  states : R u.state v.state

end InUse

section Happen

variable {u : InUse σ} {v : InUse τ} {e : Happening}

/-- When something happens to consoles that agree, their callers are told the same. -/
theorem happen_together (h : c.Agree (u.token? e) R d) (huv : u.Related R v) :
    (c.happen u e).1 = (d.happen v e).1 ∧ (c.happen u e).2.Related R (d.happen v e).2 := by
  obtain ⟨streams, s⟩ := u
  obtain ⟨_, t⟩ := v
  obtain ⟨rfl, hst⟩ := huv
  cases e with
  | request o r =>
    obtain ⟨a, s', t', hs, ht, hst'⟩ := (handle_together h o).exists_result hst
    simp only [happen, hs, ht, h.settings]
    exact ⟨trivial, rfl, hst'⟩
  | round o clock place =>
    cases hplace : streams[place]? with
    | none =>
      simp only [happen, hplace]
      exact ⟨trivial, rfl, hst⟩
    | some l =>
      have hagree : c.Agree l.watch.token R d := by
        simpa only [InUse.token?, hplace, Option.bind_some] using h
      obtain ⟨results, s', t', hs, ht, hst'⟩ :=
        (checkAll_together hagree o l.ticking.ids).exists_result hst
      simp only [happen, hplace, hs, ht]
      exact ⟨trivial, rfl, hst'⟩
  | heartbeat o place =>
    cases hplace : streams[place]? with
    | none =>
      simp only [happen, hplace]
      exact ⟨trivial, rfl, hst⟩
    | some l =>
      simp only [happen, hplace]
      exact ⟨trivial, rfl, hst⟩
  | hangUp place => exact ⟨rfl, rfl, hst⟩

end Happen

/-! ### Tokens of streams -/

/-- A stream has the token of the request that it answers. -/
theorem token_of_stream {o : Occasion} {r : Request} {s : σ} {w : Watch}
    (h : (c.handle o r s).1 = .stream w) : w.token = r.bearer? := by
  unfold handle at h
  cases hdispatch : Route.dispatch routes r.method r.path with
  | unknownPath | unknownMethod =>
    simp only [hdispatch] at h
    cases h
  | endpoint e parameters =>
    simp only [hdispatch] at h
    have hhead (a : Answer) : a.headOnly ≠ .stream w := by cases a <;> nofun
    cases hread : read c.settings e r parameters with
    | error response =>
      simp only [hread] at h
      split at h
      · exact absurd h (hhead _)
      · cases h
    | ok call =>
      simp only [hread] at h
      split at h
      · exact absurd h (hhead _)
      · cases call with
        | stream ids => exact congrArg Watch.token (Answer.stream.inj h).symm
        | alive | operation | probe => cases h

namespace InUse

variable {u : InUse σ} {e : Happening}

/-- Every stream is checked with the token of the request that opened it, if it has one. -/
def Honest (u : InUse σ) : Prop := ∀ l ∈ u.streams, l.watch.token = l.opener.bearer?

/-- Operations are performed with the token of the request that is served. -/
theorem Honest.token?_eq (h : u.Honest) (e : Happening) :
    u.token? e = (u.served? e).bind Request.bearer? := by
  cases e with
  | request o r => rfl
  | round o clock place =>
    cases hplace : u.streams[place]? with
    | none => simp only [token?, served?, hplace, Option.bind_none, Option.map_none]
    | some l =>
      simp only [token?, served?, hplace, Option.bind_some, Option.map_some]
      exact h l (List.mem_of_getElem? hplace)
  | heartbeat | hangUp => rfl

/-- A stream that has gone on has the same token. -/
theorem Honest.set (h : u.Honest) {place : Nat} {l : Listening}
    (hplace : u.streams[place]? = some l) (ticking : TickingFeed) (state : σ) :
    Honest { streams := u.streams.set place { l with ticking }, state } := by
  intro l' hl'
  rcases List.mem_or_eq_of_mem_set hl' with hl' | rfl
  · exact h l' hl'
  · exact h l (List.mem_of_getElem? hplace)

/-- Every stream keeps the token of the request that opened it. -/
theorem Honest.happen (h : u.Honest) (c : Console σ) (e : Happening) :
    (c.happen u e).2.Honest := by
  cases e with
  | request o r =>
    intro l hl
    have hl : l ∈ u.streams ++ (c.handle o r u.state).1.opened c.settings o r := hl
    rcases List.mem_append.1 hl with hl | hl
    · exact h l hl
    · obtain ⟨w, hw, rfl, rfl⟩ := Answer.of_mem_opened hl
      exact token_of_stream hw
  | round o clock place =>
    cases hplace : u.streams[place]? with
    | none =>
      simp only [Console.happen, hplace]
      exact h
    | some l =>
      simp only [Console.happen, hplace]
      exact h.set hplace _ _
  | heartbeat o place =>
    cases hplace : u.streams[place]? with
    | none =>
      simp only [Console.happen, hplace]
      exact h
    | some l =>
      simp only [Console.happen, hplace]
      exact h.set hplace _ _
  | hangUp place => exact fun l hl => h l (List.mem_of_mem_eraseIdx hl)

end InUse

/-! ### The record of requests -/

/-- The console over a network, with a record of the requests of its backend. Probes are made of
other servers. -/
def recording (settings : Settings) (n : Network σ) (cluster : Kafka.Cluster σ) :
    Console (List Outgoing × σ) where
  settings
  backend := .remote (.ofSettings settings) n.recording
  probe o p s :=
    let (reply, rest) := Probe.live n cluster settings.requestTimeout o p s.2
    (reply, (s.1, rest))

/-- The requests that the backend sends when something happens. -/
def asks (settings : Settings) (n : Network σ) (cluster : Kafka.Cluster σ) (u : InUse σ)
    (e : Happening) : List Outgoing :=
  ((recording settings n cluster).happen
    { streams := u.streams, state := ([], u.state) } e).2.state.1

/-- The requests that the backend sends in the course of time, each with the request that it
serves. -/
def exchanged (settings : Settings) (n : Network σ) (cluster : Kafka.Cluster σ) :
    List Happening → InUse σ → List (Option Request × Outgoing)
  | [], _ => []
  | e :: rest, u =>
    (asks settings n cluster u e).map (u.served? e, ·) ++
      exchanged settings n cluster rest ((remote settings n cluster).happen u e).2

section Record

variable {settings : Settings} {n : Network σ} {m : Network τ} {cluster : Kafka.Cluster σ}
  {cluster' : Kafka.Cluster τ} {u : InUse σ} {v : InUse τ} {e : Happening}

/-- Consoles over networks that agree agree. -/
theorem remote_agree (h : n.AgreeOn ((Remote.ofSettings settings).Sends token) R m)
    (hprobe : ∀ o p, Together R (Probe.live n cluster settings.requestTimeout o p)
      (Probe.live m cluster' settings.requestTimeout o p)) :
    (remote settings n cluster).Agree token R (remote settings m cluster') where
  settings := rfl
  perform := Remote.perform_together h
  probe := hprobe

/-- So they do with a record, and it is the same. -/
theorem recording_agree (h : n.AgreeOn ((Remote.ofSettings settings).Sends token) R m)
    (hprobe : ∀ o p, Together R (Probe.live n cluster settings.requestTimeout o p)
      (Probe.live m cluster' settings.requestTimeout o p)) :
    (recording settings n cluster).Agree token
      (Recorded ((Remote.ofSettings settings).Sends token) R)
      (recording settings m cluster') where
  settings := rfl
  perform := Remote.perform_together h.recording
  probe o p := by
    rintro ⟨record, s⟩ ⟨_, t⟩ ⟨rfl, hkind, hst⟩
    obtain ⟨hreply, hstates⟩ := hprobe o p s t hst
    exact ⟨hreply, rfl, hkind, hstates⟩

/-- Keeping a record changes nothing. -/
theorem happen_recording (settings : Settings) (n : Network σ) (cluster : Kafka.Cluster σ)
    (streams : List Listening) (record : List Outgoing) (s : σ) (e : Happening) :
    let recorded := (recording settings n cluster).happen { streams, state := (record, s) } e
    let plain := (remote settings n cluster).happen { streams, state := s } e
    recorded.1 = plain.1 ∧ recorded.2.Related (fun x t => x.2 = t) plain.2 := by
  have hagree (token : Option String) : (recording settings n cluster).Agree token
      (fun x t => x.2 = t) (remote settings n cluster) :=
    { settings := rfl
      perform := Remote.perform_together n.recording_agreeOn
      probe := by
        rintro o p ⟨record, s⟩ t rfl
        exact ⟨rfl, rfl⟩ }
  exact happen_together (hagree _) ⟨rfl, rfl⟩

/-- Networks that agree on the requests for a caller are asked for the same things. -/
theorem asks_together (h : n.AgreeOn ((Remote.ofSettings settings).Sends (u.token? e)) R m)
    (hprobe : ∀ o p, Together R (Probe.live n cluster settings.requestTimeout o p)
      (Probe.live m cluster' settings.requestTimeout o p)) (huv : u.Related R v) :
    asks settings n cluster u e = asks settings m cluster' v e ∧
      ∀ out ∈ asks settings n cluster u e,
        (Remote.ofSettings settings).Sends (u.token? e) out := by
  have hagree := recording_agree h hprobe
  -- Both records begin empty, so that nothing in them is for another caller.
  obtain ⟨-, -, hrecorded⟩ := happen_together
    (u := { streams := u.streams, state := ([], u.state) })
    (v := { streams := v.streams, state := ([], v.state) }) (e := e) hagree
    ⟨huv.streams, rfl, nofun, huv.states⟩
  exact ⟨hrecorded.same, hrecorded.kind⟩

/-- What the backend sends is for the caller. -/
theorem sends_of_asks {out : Outgoing} (h : out ∈ asks settings n cluster u e) :
    (Remote.ofSettings settings).Sends (u.token? e) out :=
  (asks_together (.refl n) (fun _ _ => .refl _) ⟨rfl, rfl⟩).2 out h

/-- Nothing is sent when no request is served. -/
theorem asks_of_unserved (h : u.served? e = none) : asks settings n cluster u e = [] := by
  unfold asks
  cases e with
  | request o r => cases h
  | round o clock place =>
    have hplace : u.streams[place]? = none := Option.map_eq_none_iff.1 h
    simp only [happen, hplace]
  | heartbeat o place =>
    cases hplace : u.streams[place]? <;> simp only [happen, hplace]
  | hangUp place => rfl

end Record

end PipelineConsole.Console
