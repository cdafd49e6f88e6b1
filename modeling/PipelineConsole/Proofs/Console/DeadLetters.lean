import Mathlib.Data.List.Induction
import PipelineConsole.Proofs.Backend.Documents
import PipelineConsole.Proofs.Console.Transparency
import PipelineConsole.Proofs.Orchestrator.DeadLetters

/-!
# Dead letters and who is told of them

An orchestrator is used through its own interface, or through the interface of a console that has it
in memory. Whoever asks for a batch of dead letters takes it out of the queue, and so nobody else
will see it: it should be in the answer. A batch is asked for with `GET`, and where `GET` works, so
does `HEAD`. It takes the batch as well, but there is nothing in its answer. Along a run the dead
letters that have come are those that have been told, those that were thrown away on purpose and
those that are left, unless the run takes a batch with `HEAD`.

## Main definitions

* `Interface`, `Interface.handle` — the two interfaces
* `Interface.Event`, `Interface.run` — what happens to an orchestrator that is used through both
* `Interface.told`, `Interface.discarded` — how dead letters are told and thrown away
* `Interface.Spills` — a batch is taken with `HEAD`

## Main results

* `Interface.handle_of_asked`, `Interface.state_handle_of_none` — what a request does
* `Interface.balanced_of_not_spills` — one event
* `Interface.letters_balance_iff` — a run
* `Interface.letters_may_be_lost` — a run that loses dead letters
-/

namespace PipelineConsole

open Http (Request Response Route)
open Orchestrator (Rules fresh)

/-! ### The two interfaces -/

/-- What a caller may use. -/
inductive Interface where
  | orchestrator
  | console
  deriving DecidableEq, Repr

/-- The dead letters that a response holds. -/
def Http.Response.letters (r : Response) : List DeadLetter.Message :=
  match r.content with
  | .json v => ((Json.Codec.list DeadLetter.Message.codec).readValue v).toOption.getD []
  | .text _ | .none => []

/-- The dead letters that an answer holds. -/
def Console.Answer.letters : Console.Answer → List DeadLetter.Message
  | .response r => r.letters
  | .stream _ => []

namespace Interface

section Handle

variable (settings : Settings) (rules : Rules)

/-- The operation that a request asks for, if it asks for one. -/
def asked? (i : Interface) (r : Request) : Option Operation :=
  match i with
  | orchestrator =>
    match Route.dispatch Orchestrator.routes r.method r.path with
    | .endpoint kind parameters => (kind.read r parameters (.ok ())).toOption
    | _ => none
  | console =>
    match Console.asked? settings r with
    | some (.operation op) => some op
    | _ => none

/-- The answer to a request and the state after it. -/
def handle (i : Interface) (o : Occasion) (r : Request) (s : Orchestrator) :
    Console.Answer × Orchestrator :=
  match i with
  | orchestrator =>
    let (response, s) := s.handle rules o r
    (.response response, s)
  | console => (Console.inMemory settings rules).handle o r s

/-- The response to an operation and the state after it. -/
def perform (i : Interface) (token : Option String) (o : Occasion) (op : Operation)
    (s : Orchestrator) : Response × Orchestrator :=
  match i with
  | orchestrator => s.answer rules o op
  | console => (Console.inMemory settings rules).answerOperation token o op s

variable {settings rules} {i : Interface} {o : Occasion} {r : Request} {op : Operation}
  {s : Orchestrator} {token : Option String}

/-- A request that asks for no operation changes nothing. -/
theorem state_handle_of_none (h : i.asked? settings r = none) :
    (i.handle settings rules o r s).2 = s := by
  cases i with
  | orchestrator =>
    unfold asked? at h
    unfold handle Orchestrator.handle
    cases hdispatch : Route.dispatch Orchestrator.routes r.method r.path with
    | unknownPath | unknownMethod => rfl
    | endpoint kind parameters =>
      cases hread : kind.read r parameters (.ok ()) with
      | error response => simp only [hread]
      | ok op =>
        rw [hdispatch] at h
        simp only [hread] at h
        cases h
  | console =>
    unfold asked? at h
    rw [handle, Console.state_handle]
    have hsettings : (Console.inMemory settings rules).settings = settings := rfl
    rw [hsettings]
    cases hasked : Console.asked? settings r with
    | none => rfl
    | some call =>
      cases call with
      | operation op =>
        rw [hasked] at h
        cases h
      | alive | stream | probe => rfl

/-- A request that asks for an operation is answered with the response to it, or with its head. -/
theorem handle_of_asked (h : i.asked? settings r = some op) :
    i.handle settings rules o r s =
      (let answer : Console.Answer := .response (i.perform settings rules r.bearer? o op s).1
       if r.method = .head then answer.headOnly else answer,
        (i.perform settings rules r.bearer? o op s).2) := by
  cases i with
  | orchestrator =>
    unfold asked? at h
    unfold handle Orchestrator.handle
    cases hdispatch : Route.dispatch Orchestrator.routes r.method r.path with
    | unknownPath | unknownMethod =>
      rw [hdispatch] at h
      cases h
    | endpoint kind parameters =>
      rw [hdispatch] at h
      cases hread : kind.read r parameters (.ok ()) with
      | error response =>
        simp only [hread] at h
        cases h
      | ok op' =>
        simp only [hread] at h
        obtain rfl : op' = op := Option.some.inj h
        simp only [hread, perform]
        split <;> rfl
  | console =>
    unfold asked? at h
    cases hasked : Console.asked? settings r with
    | none =>
      rw [hasked] at h
      cases h
    | some call =>
      rw [hasked] at h
      cases call with
      | operation op' =>
        obtain rfl : op' = op := Option.some.inj h
        have hcall : Console.asked? (Console.inMemory settings rules).settings r =
            some (.operation op') := hasked
        exact Console.handle_of_asked hcall
      | alive | stream | probe => cases h

/-! ### What answers hold -/

/-- A batch is read back from the document that tells it. -/
theorem letters_document (batch : List DeadLetter.Message) :
    (Operation.document (.list DeadLetter.Message.codec) batch).letters = batch := by
  have hread : (Json.Codec.list DeadLetter.Message.codec).readValue
      ((Json.Codec.list DeadLetter.Message.codec).encode batch) = .ok batch :=
    (Json.Codec.lawful_list (DeadLetter.Message.lawful_codec 0)).decode_encode .value batch trivial
  unfold Operation.document Http.Response.ofJson Http.Response.letters
  dsimp only
  rw [hread]
  rfl

/-- There is nothing in the answer to `HEAD`. -/
theorem letters_headOnly (a : Console.Answer) : a.headOnly.letters = [] := by
  cases a <;> rfl

/-- A refused operation is answered without dead letters and leaves the state as it is. -/
theorem perform_of_error {f : Orchestrator.Fault}
    (h : Orchestrator.perform rules o op s = (.error f, s)) :
    (i.perform settings rules token o op s).1.letters = [] ∧
      (i.perform settings rules token o op s).2 = s := by
  cases i with
  | orchestrator =>
    rw [perform, Orchestrator.answer, h]
    exact ⟨rfl, rfl⟩
  | console =>
    rw [perform, Console.answerOperation_of_fault h]
    exact ⟨rfl, rfl⟩

/-- The state after an operation does not depend on the interface. -/
theorem state_perform_of_ok {reply : op.Reply} {s' : Orchestrator}
    (h : Orchestrator.perform rules o op s = (.ok reply, s')) :
    (i.perform settings rules token o op s).2 = s' := by
  cases i with
  | orchestrator => simp only [perform, Orchestrator.answer, h]
  | console => exact Console.state_answerOperation_of_ok h settings

/-- The batch is in the response. -/
theorem letters_perform_consume {id : String} {size : Option UInt64}
    {batch : List DeadLetter.Message} {s' : Orchestrator}
    (h : Orchestrator.perform rules o (.consume id size) s = (.ok batch, s')) :
    (i.perform settings rules token o (.consume id size) s).1.letters = batch := by
  cases i with
  | orchestrator =>
    simp only [perform, Orchestrator.answer, h]
    cases batch with
    | nil => rfl
    | cons first rest => exact letters_document (first :: rest)
  | console =>
    have hdirect : (Console.inMemory settings rules).backend.perform token o (.consume id size) s =
        (.ok batch, s') := Backend.inMemory_of_ok h
    rw [perform, Console.answerOperation_of_ok hdirect rfl]
    exact letters_document batch

end Handle

/-! ### Events -/

/-- What happens to an orchestrator that is used through its interfaces: a request comes in at one
of them, or a timer fires. -/
inductive Event where
  | request (i : Interface) (o : Occasion) (r : Request)
  | fire (o : Occasion) (t : Timer)

section Events

variable (settings : Settings) (rules : Rules)

/-- The state after an event. A timer that is not set does not fire. -/
def step (s : Orchestrator) : Event → Orchestrator
  | .request i o r => (i.handle settings rules o r s).2
  | .fire o t => if t ∈ s.timers then (s.fire o t).2 else s

/-- The state after a run. -/
def run (s : Orchestrator) (events : List Event) : Orchestrator :=
  events.foldl (step settings rules) s

/-- The dead letters of an id that the answer to an event tells. -/
def told (s : Orchestrator) (e : Event) (id : String) : List DeadLetter.Message :=
  match e with
  | .request i o r =>
    match i.asked? settings r with
    | some (.consume key _) => if key = id then (i.handle settings rules o r s).1.letters else []
    | _ => []
  | .fire .. => []

/-- The dead letters of an id that an event throws away on purpose: all of them, if the operation is
performed. -/
def discarded (s : Orchestrator) (e : Event) (id : String) : List DeadLetter.Message :=
  match e with
  | .request i o r =>
    match i.asked? settings r with
    | some op =>
      if op.Discards id ∧ (Orchestrator.perform rules o op s).1.isOk then s.letters id else []
    | none => []
  | .fire .. => []

/-- A request takes a batch that its answer does not hold, since it is a `HEAD` request. -/
def Spills (s : Orchestrator) : Event → Prop
  | .request i o r => r.method = .head ∧ ∃ id size batch s', i.asked? settings r =
      some (.consume id size) ∧ Orchestrator.consume o id size s = (.ok batch, s') ∧ batch ≠ []
  | .fire .. => False

/-- The dead letters of an id that come in a run. -/
def arrived (s : Orchestrator) (id : String) : List Event → List DeadLetter.Message
  | [] => []
  | e :: rest =>
    s.arrivals (step settings rules s e) id ++ arrived (step settings rules s e) id rest

/-- The dead letters of an id that are told or thrown away in a run, in this order. -/
def departed (s : Orchestrator) (id : String) : List Event → List DeadLetter.Message
  | [] => []
  | e :: rest =>
    told settings rules s e id ++ discarded settings rules s e id ++
      departed (step settings rules s e) id rest

variable {settings rules} {s : Orchestrator} {e : Event} {id : String}

theorem run_append (s : Orchestrator) (before : List Event) (e : Event) :
    run settings rules s (before ++ [e]) =
      step settings rules (run settings rules s before) e := by
  rw [run, run, List.foldl_append]
  rfl

theorem arrived_append (s : Orchestrator) (id : String) (before : List Event) (e : Event) :
    arrived settings rules s id (before ++ [e]) =
      arrived settings rules s id before ++
        (run settings rules s before).arrivals (run settings rules s (before ++ [e])) id := by
  induction before generalizing s with
  | nil => exact List.append_nil _
  | cons first rest ih =>
    rw [List.cons_append, arrived, ih, arrived, List.append_assoc]
    rfl

theorem departed_append (s : Orchestrator) (id : String) (before : List Event) (e : Event) :
    departed settings rules s id (before ++ [e]) =
      departed settings rules s id before ++
        (told settings rules (run settings rules s before) e id ++
          discarded settings rules (run settings rules s before) e id) := by
  induction before generalizing s with
  | nil => exact List.append_nil _
  | cons first rest ih =>
    rw [List.cons_append, departed, ih, departed]
    exact (List.append_assoc ..).symm

/-- Events leave no queue without pipeline. -/
theorem housed_step (hs : s.Housed) (e : Event) : (step settings rules s e).Housed := by
  cases e with
  | fire o t =>
    rw [step]
    split
    · exact hs.fire o t
    · exact hs
  | request i o r =>
    rw [step]
    cases hasked : i.asked? settings r with
    | none => rwa [state_handle_of_none hasked]
    | some op =>
      rw [handle_of_asked hasked]
      dsimp only
      rcases Orchestrator.perform_cases rules o op s with ⟨reply, s', hperform⟩ | ⟨f, hperform⟩
      · rw [state_perform_of_ok hperform]
        exact hs.perform hperform
      · rwa [(perform_of_error hperform).2]

theorem housed_run (hs : s.Housed) (events : List Event) :
    (run settings rules s events).Housed := by
  induction events generalizing s with
  | nil => exact hs
  | cons e rest ih => exact ih (housed_step hs e)

/-! ### One event -/

section Request

variable {i : Interface} {o : Occasion} {r : Request} {op : Operation}

/-- What a performed operation hands out is told, unless it is spilled. -/
theorem told_of_ok (hasked : i.asked? settings r = some op) {reply : op.Reply} {s' : Orchestrator}
    (hperform : Orchestrator.perform rules o op s = (.ok reply, s'))
    (hspills : ¬ Spills settings s (.request i o r)) :
    told settings rules s (.request i o r) id = op.batchFrom id reply := by
  rw [told, hasked]
  cases op with
  | consume key size =>
    dsimp only [Operation.batchFrom]
    split
    · rw [handle_of_asked hasked]
      dsimp only
      split
      · next hhead =>
        -- The batch of a `HEAD` request that spills nothing is empty.
        have hempty : reply = [] := by
          by_contra hne
          exact hspills ⟨hhead, key, size, reply, s', hasked, hperform, hne⟩
        rw [letters_headOnly, hempty]
      · exact letters_perform_consume hperform
    · rfl
  | _ => rfl

/-- A refused operation tells of no dead letters. -/
theorem told_of_error (hasked : i.asked? settings r = some op) {f : Orchestrator.Fault}
    (hperform : Orchestrator.perform rules o op s = (.error f, s)) :
    told settings rules s (.request i o r) id = [] := by
  rw [told, hasked]
  cases op with
  | consume key size =>
    dsimp only
    rw [handle_of_asked hasked]
    dsimp only
    split
    · split
      · exact letters_headOnly _
      · exact (perform_of_error hperform).1
    · rfl
  | _ => rfl

/-- An operation that throws dead letters away tells of none. -/
theorem told_of_discards (hasked : i.asked? settings r = some op) (hop : op.Discards id) :
    told settings rules s (.request i o r) id = [] := by
  rw [told, hasked]
  cases op with
  | consume => exact hop.elim
  | _ => rfl

/-- A request for an operation accounts for the dead letters of every id. -/
theorem balanced_of_asked (hs : s.Housed) (hasked : i.asked? settings r = some op)
    (hspills : ¬ Spills settings s (.request i o r)) (id : String) :
    s.letters id ++ s.arrivals (step settings rules s (.request i o r)) id =
      told settings rules s (.request i o r) id ++
        discarded settings rules s (.request i o r) id ++
        (step settings rules s (.request i o r)).letters id := by
  have hstep : step settings rules s (.request i o r) =
      (i.perform settings rules r.bearer? o op s).2 := by
    rw [step, handle_of_asked hasked]
  rw [hstep, discarded, hasked]
  dsimp only
  rcases Orchestrator.perform_cases rules o op s with ⟨reply, s', hperform⟩ | ⟨f, hperform⟩
  · rw [state_perform_of_ok hperform, hperform]
    by_cases hop : op.Discards id
    · have hleft : s'.letters id = [] := Orchestrator.letters_of_discards hop hperform
      have hnew : s.arrivals s' id = [] := by
        rw [Orchestrator.arrivals, hleft, ite_self]
      rw [told_of_discards hasked hop, if_pos ⟨hop, rfl⟩, hleft, hnew, List.nil_append]
    · rw [told_of_ok hasked hperform hspills, if_neg fun h => hop h.1, List.append_nil]
      exact Orchestrator.letters_of_perform hs hop hperform
  · rw [(perform_of_error hperform).2, hs.arrivals_of_same rfl, told_of_error hasked hperform,
      hperform, if_neg fun h => Bool.false_ne_true h.2, List.append_nil]
    rfl

end Request

/-- What is there and what comes is told, thrown away or left, unless the event spills a batch. -/
theorem balanced_of_not_spills (hs : s.Housed) (hspills : ¬ Spills settings s e) (id : String) :
    s.letters id ++ s.arrivals (step settings rules s e) id =
      told settings rules s e id ++ discarded settings rules s e id ++
        (step settings rules s e).letters id := by
  have hsame (htold : told settings rules s e id = [])
      (hgone : discarded settings rules s e id = [])
      (heq : (step settings rules s e).letters id = s.letters id) :
      s.letters id ++ s.arrivals (step settings rules s e) id =
        told settings rules s e id ++ discarded settings rules s e id ++
          (step settings rules s e).letters id := by
    rw [hs.arrivals_of_same heq, htold, hgone, heq, List.append_nil, List.nil_append,
      List.nil_append]
  cases e with
  | fire o t =>
    refine hsame rfl rfl (Orchestrator.letters_of_queues ?_)
    rw [step]
    split
    · exact Orchestrator.queues_fire s o t
    · rfl
  | request i o r =>
    cases hasked : i.asked? settings r with
    | none =>
      refine hsame ?_ ?_ ?_
      · rw [told, hasked]
      · rw [discarded, hasked]
      · rw [step, state_handle_of_none hasked]
    | some op => exact balanced_of_asked hs hasked hspills id

/-- A batch that is spilled is missing from the account. -/
theorem not_balanced_of_spills (rules : Rules) (h : Spills settings s e) :
    ∃ id, s.letters id ++ s.arrivals (step settings rules s e) id ≠
      told settings rules s e id ++ discarded settings rules s e id ++
        (step settings rules s e).letters id := by
  cases e with
  | fire o t => exact h.elim
  | request i o r =>
    obtain ⟨hhead, id, size, batch, s', hasked, hconsume, hne⟩ := h
    have hperform : Orchestrator.perform rules o (.consume id size) s = (.ok batch, s') := hconsume
    have hstep : step settings rules s (.request i o r) = s' := by
      rw [step, handle_of_asked hasked]
      exact state_perform_of_ok hperform
    have htold : told settings rules s (.request i o r) id = [] := by
      rw [told, hasked]
      dsimp only
      rw [if_pos rfl, handle_of_asked hasked]
      dsimp only
      rw [if_pos hhead, letters_headOnly]
    have hgone : discarded settings rules s (.request i o r) id = [] := by
      rw [discarded, hasked]
      exact if_neg fun hdiscards => hdiscards.1
    have hthere := (Orchestrator.consume_eq_ok hconsume).1
    refine ⟨id, fun hbalance => hne ?_⟩
    rw [hstep, htold, hgone, Orchestrator.arrivals_of_isSome hthere,
      (Orchestrator.letters_of_consume hconsume).1, List.append_nil, List.append_nil,
      List.nil_append] at hbalance
    exact List.append_cancel_right (hbalance.trans (List.nil_append _).symm)

/-! ### A run -/

/-- Throughout a run through both interfaces, the dead letters that have come with the pipeline of
an id are, in this order and each once, those that have been told or thrown away on purpose, and
those that are left. This holds exactly when the run takes no batch with `HEAD`. -/
theorem letters_balance_iff (settings : Settings) (rules : Rules) (welcomeAt lagAt : Timestamp)
    (events : List Event) :
    let start := fresh welcomeAt lagAt
    (∀ before, before <+: events → ∀ id,
        arrived settings rules start id before =
          departed settings rules start id before ++
            (run settings rules start before).letters id) ↔
      ∀ before e, before ++ [e] <+: events →
        ¬ Spills settings (run settings rules start before) e := by
  intro start
  constructor
  · intro hbalance before e hpre hspills
    obtain ⟨id, hmissing⟩ := not_balanced_of_spills rules hspills
    have hbefore := hbalance before ((List.prefix_append before [e]).trans hpre) id
    have hafter := hbalance _ hpre id
    rw [arrived_append, departed_append, hbefore, run_append, List.append_assoc,
      List.append_assoc] at hafter
    exact hmissing (List.append_cancel_left hafter)
  · intro hkept before
    -- The account is carried along the run, event by event.
    induction before using List.reverseRecOn with
    | nil => exact fun _ _ => rfl
    | append_singleton before e ih =>
      intro hpre id
      have hbefore := ih ((List.prefix_append before [e]).trans hpre) id
      have hhoused : (run settings rules start before).Housed :=
        housed_run (Orchestrator.housed_fresh welcomeAt lagAt) before
      rw [arrived_append, departed_append, hbefore, run_append, List.append_assoc,
        List.append_assoc, balanced_of_not_spills hhoused (hkept before e hpre) id]

end Events

/-! ### A run that loses dead letters -/

/-- When the run takes place. -/
def spillingTime : Timestamp := ⟨⟨2024, 2, 3, by decide⟩, 27000, 0, by decide⟩

/-- A pipeline is created, and a batch of its dead letters is asked for with `HEAD`. -/
def spillingRun : List Event :=
  let config : PipelineConfig :=
    { id := "a", name := "Orders", source := .object [("topics", .array [.null])]
      sink := .object [] }
  let o : Occasion := ⟨0, spillingTime, "fresh", []⟩
  [.request .orchestrator o
      { method := .post, path := "/api/v1/pipeline"
        headers := [("content-type", "application/json")]
        body := Text.Utf8.encode (PipelineConfig.codec.write config) },
    .request .orchestrator o { method := .head, path := "/api/v1/pipeline/a/dlq/consume" }]

/-- The dead letters that came with the pipeline are gone, and nobody has been told of them. -/
theorem spillingRun_letters :
    let start := fresh spillingTime spillingTime
    arrived {} {} start "a" spillingRun = Demo.deadLetters "a" ∧
      departed {} {} start "a" spillingRun = [] ∧
      (run {} {} start spillingRun).letters "a" = [] := by
  decide +kernel

/-- Dead letters may go without being told or thrown away on purpose. -/
theorem letters_may_be_lost :
    ¬ ∀ (settings : Settings) (rules : Rules) (welcomeAt lagAt : Timestamp) (events : List Event)
      (id : String),
      arrived settings rules (fresh welcomeAt lagAt) id events =
        departed settings rules (fresh welcomeAt lagAt) id events ++
          (run settings rules (fresh welcomeAt lagAt) events).letters id := by
  intro hbalance
  obtain ⟨harrived, hdeparted, hleft⟩ := spillingRun_letters
  have heq := hbalance {} {} spillingTime spillingTime spillingRun "a"
  rw [harrived, hdeparted, hleft] at heq
  cases heq

end Interface

end PipelineConsole
