import Mathlib.Data.List.Basic
import PipelineConsole.Proofs.Orchestrator.Locality
import PipelineConsole.Scenario.Surroundings

/-!
# Operations in two sections

Pipelines and queues are kept apart, and each is locked by itself. Some operations therefore take
two sections: one that concerns the pipelines, and a second one that concerns the queues. Between
the two, sections of other operations may come. Whether the pipeline of an id is there is settled by
the first sections, in the order in which operations are begun; whether its queue is there is
settled by the second ones, in the order in which operations are finished.

## Main definitions

* `Orchestrator.Remainder` — what is left of an operation after its first section
* `Orchestrator.begin`, `Orchestrator.finish` — the two sections
* `Orchestrator.Shared`, `Orchestrator.Move` — an orchestrator with several callers, and their steps
* `Orchestrator.InStep` — pipelines and queues have the same ids
* `Shared.begun`, `Shared.finished` — the operations of a run, in the two orders
* `Shared.Crosses` — a pipeline comes or goes while an operation on it is under way

## Main results

* `run_undisturbed` — an operation whose sections follow one another is performed as a whole
* `hasPipeline_run`, `hasQueue_run` — the last operation that is begun, or finished, decides
* `in_step_iff` — when pipelines and queues are in step after a run
* `overtaken_deletion_takes_queue` — two callers after whom they are not
-/

namespace PipelineConsole.Orchestrator

open Handler (look update)
open Surroundings (moment occasion)

/-- What is left of an operation once its first section is done. -/
inductive Remainder where
  | seed (id : String)
  | drop (id : String)
  | look (id : String)
  | take (id : String) (size : Nat)
  | clear (id : String)
  deriving DecidableEq

namespace Remainder

/-- What is said about one id only. -/
def only (key : String) (b : Bool) (id : String) : Option Bool := if id = key then some b else none

/-- Whether the first section has brought the pipeline of an id, or removed it, if it did either. -/
def pipeline? (id : String) : Remainder → Option Bool
  | seed key => only key true id
  | drop key => only key false id
  | look _ | take .. | clear _ => none

/-- Whether the second section leaves a queue to an id, or none, if it settles this. -/
def queue? (id : String) : Remainder → Option Bool
  | seed key | take key _ => only key true id
  | drop key => only key false id
  | look _ | clear _ => none

theorem only_eq_some {key id : String} {b c : Bool} (h : only key b id = some c) :
    id = key ∧ b = c := by
  rw [only] at h
  split at h
  · next heq => exact ⟨heq, Option.some.inj h⟩
  · cases h

/-- What brings a pipeline also brings its queue, and what removes one also removes the other. -/
theorem queue?_of_pipeline? {r : Remainder} {id : String} {b : Bool} (h : r.pipeline? id = some b) :
    r.queue? id = some b := by
  cases r with
  | seed | drop => exact h
  | look | take | clear => cases h

end Remainder

/-- The operations that take two sections. -/
def takesTwo : Operation → Bool
  | .create _ | .delete _ | .deadLetters _ | .consume .. | .purge _ => true
  | _ => false

/-- The first section of an operation that takes two, or the whole of another one. -/
def begin (rules : Rules) (o : Occasion) : Operation → Handler (Option Remainder)
  | .create config => do
    look fun _ => config.check.mapError .invalidConfig
    let id := if Text.isBlankText config.id then o.freshId else config.id
    accept rules o { config with id }
    return some (.seed id)
  | .delete id => do
    withdraw id
    return some (.drop id)
  | .deadLetters id => do
    look (·.ensureExists id)
    return some (.look id)
  | .consume id size => do
    let size ← look fun _ => readBatchSize size
    look (·.ensureExists id)
    return some (.take id size)
  | .purge id => do
    look (·.ensureExists id)
    return some (.clear id)
  | op => do
    let _ ← perform rules o op
    return none

/-- The second section of an operation, and what follows it. -/
def finish (s : Orchestrator) (rules : Rules) (o : Occasion) : Remainder → Orchestrator
  | .seed id => (s.seedQueue o id).schedule o id .created .running rules.delays.start
  | .drop id => s.dropQueue id
  | .look _ => s
  | .take id size => (s.takeBatch o id size).2
  | .clear id => s.emptyQueue id

/-- Whether the pipeline of an id is there. -/
def hasPipeline (s : Orchestrator) (id : String) : Bool := (s.pipelines.get? id).isSome

/-- Whether the queue of an id is there. -/
def hasQueue (s : Orchestrator) (id : String) : Bool := (s.queues.get? id).isSome

/-- The ids with a queue are those with a pipeline. -/
def InStep (s : Orchestrator) : Prop := ∀ id, s.hasQueue id = s.hasPipeline id

/-- An orchestrator with several callers. The operations under way have been begun but not
finished; they stand in the order in which they were begun. -/
structure Shared where
  store : Orchestrator
  underWay : List Remainder := []

/-- A step of a caller, or of the clock. An operation is begun; one of those under way is finished,
given by its place; a timer fires. -/
inductive Move where
  | start (o : Occasion) (op : Operation)
  | finish (o : Occasion) (place : Nat)
  | fire (o : Occasion) (t : Timer)

namespace Shared

/-- The operation in two sections that is begun in a step. -/
def begins (rules : Rules) (c : Shared) : Move → List Remainder
  | .start o op =>
    match (begin rules o op c.store).1 with
    | .ok rest => rest.toList
    | .error _ => []
  | _ => []

/-- The operation that is finished in a step. -/
def finishes (c : Shared) : Move → List Remainder
  | .finish _ place => c.underWay[place]?.toList
  | _ => []

/-- The orchestrator and its callers after a step. -/
def step (rules : Rules) (c : Shared) (m : Move) : Shared where
  store :=
    match m with
    | .start o op => (begin rules o op c.store).2
    | .finish o place => c.underWay[place]?.elim c.store (c.store.finish rules o)
    | .fire o t => if t ∈ c.store.timers then (c.store.fire o t).2 else c.store
  underWay :=
    match m with
    | .finish _ place => c.underWay.eraseIdx place
    | _ => c.underWay ++ c.begins rules m

/-- The orchestrator and its callers after some steps. -/
def run (rules : Rules) (c : Shared) (moves : List Move) : Shared := moves.foldl (step rules) c

/-- The operations that are begun in some steps, in this order. -/
def begun (rules : Rules) (c : Shared) : List Move → List Remainder
  | [] => []
  | m :: rest => c.begins rules m ++ (c.step rules m).begun rules rest

/-- The operations that are finished in some steps, in this order. -/
def finished (rules : Rules) (c : Shared) : List Move → List Remainder
  | [] => []
  | m :: rest => c.finishes m ++ (c.step rules m).finished rules rest

/-- What the last of some operations says that says something. -/
def last (f : Remainder → Option Bool) (rs : List Remainder) : Option Bool :=
  (rs.filterMap f).getLast?

/-- A pipeline comes or goes in a step, while an operation is under way that is to settle whether
its queue is there. -/
def Crosses (rules : Rules) (c : Shared) (m : Move) : Prop :=
  ∃ id, (∃ r ∈ c.begins rules m, r.pipeline? id ≠ none) ∧ ∃ r ∈ c.underWay, r.queue? id ≠ none

end Shared

/-! ### What a section does -/

section Section

variable {s s' : Orchestrator} {rules : Rules} {o : Occasion} {op : Operation} {id : String}

/-- An operation that takes one section is performed in it. -/
theorem begin_eq_perform (hop : takesTwo op = false) :
    begin rules o op = do let _ ← perform rules o op; return none := by
  cases op with
  | create | delete | deadLetters | consume | purge => cases hop
  | _ => rfl

/-- A first section that is refused changes nothing. -/
theorem atomic_begin (rules : Rules) (o : Occasion) (op : Operation) :
    (begin rules o op).Atomic := by
  cases op with
  | create config =>
    refine (Handler.reads_look _).bind_atomic fun _ => ?_
    exact (atomic_accept rules o _).bind fun _ => Handler.commits_pure _
  | delete id => exact (atomic_withdraw id).bind fun _ => Handler.commits_pure _
  | deadLetters | purge =>
    exact (Handler.reads_look _).bind_atomic fun _ => (Handler.commits_pure _).atomic
  | consume =>
    refine (Handler.reads_look _).bind_atomic fun _ => ?_
    refine (Handler.reads_look _).bind_atomic fun _ => ?_
    exact (Handler.commits_pure _).atomic
  | _ => exact (atomic_perform rules o _).bind fun _ => Handler.commits_pure _

/-- Both sections together are the operation, but for its answer. -/
theorem perform_eq_sections (rules : Rules) (o : Occasion) (op : Operation) :
    (do let _ ← perform rules o op; return ()) =
      (do let rest ← begin rules o op; update fun s => rest.elim s (s.finish rules o)) := by
  funext s
  cases op with
  | create config =>
    simp only [perform, create, begin, Handler.bind_apply, Handler.look_apply]
    cases config.check.mapError Fault.invalidConfig with
    | error f => rfl
    | ok _ =>
      dsimp only
      generalize (if Text.isBlankText config.id then o.freshId else config.id) = id
      rcases accept rules o { config with id } s with ⟨_ | _, _⟩ <;> rfl
  | delete id =>
    simp only [perform, delete, begin, Handler.bind_apply]
    rcases withdraw id s with ⟨_ | _, _⟩ <;> rfl
  | deadLetters id =>
    simp only [perform, deadLetters, begin, Handler.bind_apply, Handler.look_apply]
    cases s.ensureExists id <;> rfl
  | consume id size =>
    simp only [perform, consume, begin, Handler.bind_apply, Handler.look_apply]
    cases readBatchSize size with
    | error f => rfl
    | ok size => dsimp only; cases s.ensureExists id <;> rfl
  | purge id =>
    simp only [perform, purge, begin, Handler.bind_apply, Handler.look_apply]
    cases s.ensureExists id <;> rfl
  | _ =>
    rw [begin_eq_perform rfl]
    simp only [Handler.bind_apply]
    rcases perform rules o _ s with ⟨_ | _, _⟩ <;> rfl

theorem hasPipeline_of_pipelines (h : s'.pipelines = s.pipelines) :
    s'.hasPipeline id = s.hasPipeline id := by
  rw [hasPipeline, hasPipeline, h]

theorem hasQueue_of_queues (h : s'.queues = s.queues) : s'.hasQueue id = s.hasQueue id := by
  rw [hasQueue, hasQueue, h]

/-- A value that is put somewhere is there. -/
theorem isSome_insert {α : Type} (t : Table α) (key : String) (a : α) (id : String) :
    ((t.insert key a).get? id).isSome = (Remainder.only key true id).getD (t.get? id).isSome := by
  rw [Table.get?_insert, Remainder.only]
  split <;> rfl

/-- A value that is erased is gone. -/
theorem isSome_erase {α : Type} (t : Table α) (key id : String) :
    ((t.erase key).get? id).isSome = (Remainder.only key false id).getD (t.get? id).isSome := by
  rw [Table.get?_erase, Remainder.only]
  split <;> rfl

/-- A value that takes the place of another one changes nothing about which are there. -/
theorem isSome_replace {α : Type} {t : Table α} {key : String} (a : α) (id : String)
    (h : (t.get? key).isSome = true) : ((t.insert key a).get? id).isSome = (t.get? id).isSome := by
  rw [isSome_insert, Remainder.only]
  split
  · next heq => rw [heq, h]; rfl
  · rfl

theorem hasPipeline_replace {key : String} {p q : Pipeline} (hp : s.pipelines.get? key = some p)
    (h : s'.pipelines = s.pipelines.insert key q) : s'.hasPipeline id = s.hasPipeline id := by
  rw [hasPipeline, hasPipeline, h]
  exact isSome_replace q id (Option.isSome_of_mem hp)

theorem hasPipeline_terminateEach (ids : List String) (s : Orchestrator) :
    (terminateEach rules o ids s).2.hasPipeline id = s.hasPipeline id := by
  refine terminateEach_induction (motive := (·.hasPipeline id = s.hasPipeline id))
    (fun t t' key status ht hact => ?_) ids rfl
  obtain ⟨p, hp, -, rfl⟩ := act_eq_ok hact
  exact (hasPipeline_replace hp rfl).trans ht

/-- An operation in one section brings and removes no pipeline. -/
theorem hasPipeline_perform (hop : takesTwo op = false) {reply : op.Reply}
    (h : perform rules o op s = (.ok reply, s')) : s'.hasPipeline id = s.hasPipeline id := by
  cases op with
  | create | delete | deadLetters | consume | purge => cases hop
  | rename key name =>
    obtain ⟨p, hp, rfl⟩ := rename_eq_ok h
    exact hasPipeline_replace hp rfl
  | edit key config =>
    obtain ⟨p, hp, -, rfl⟩ := edit_eq_ok h
    exact hasPipeline_replace hp rfl
  | act key action =>
    obtain ⟨p, hp, -, rfl⟩ := act_eq_ok h
    exact hasPipeline_replace hp rfl
  | terminateAll =>
    obtain rfl : (s.terminateAll rules o).2 = s' := congrArg Prod.snd h
    exact hasPipeline_terminateEach _ s
  | _ => exact hasPipeline_of_pipelines (perform_of_not_drivesPipelines rfl h).1

theorem queues_perform (hop : takesTwo op = false) {reply : op.Reply}
    (h : perform rules o op s = (.ok reply, s')) : s'.queues = s.queues := by
  cases op with
  | create | delete | deadLetters | consume | purge => cases hop
  | _ => exact queues_of_perform rfl h

/-- What a first section does to pipelines and queues. If the operation is to settle whether an id
has a queue, it is to have one exactly when it has a pipeline now. -/
structure Begins (s s' : Orchestrator) (rest : Option Remainder) : Prop where
  queues : s'.queues = s.queues
  pipelines : ∀ id, s'.hasPipeline id = (rest.bind (·.pipeline? id)).getD (s.hasPipeline id)
  owner : ∀ r, rest = some r → ∀ id b, r.queue? id = some b → s'.hasPipeline id = b

/-- Whatever brings or removes a pipeline leaves its queue to it. -/
theorem Begins.of_settled {r : Remainder} (hqueues : s'.queues = s.queues)
    (hboth : ∀ id, r.queue? id = r.pipeline? id)
    (hpipelines : ∀ id, s'.hasPipeline id = (r.pipeline? id).getD (s.hasPipeline id)) :
    Begins s s' (some r) where
  queues := hqueues
  pipelines := hpipelines
  owner := by
    intro r' hr id b hb
    obtain rfl := Option.some.inj hr
    rw [hpipelines, ← hboth, hb]
    rfl

/-- Looking for a pipeline changes nothing. -/
theorem Begins.of_ensureExists {r : Remainder} (hnone : ∀ id, r.pipeline? id = none)
    (howner : ∀ id b, r.queue? id = some b → s.hasPipeline id = b) : Begins s s (some r) where
  queues := rfl
  pipelines id := by rw [Option.bind_some, hnone]; rfl
  owner := by
    intro r' hr
    obtain rfl := Option.some.inj hr
    exact howner

/-- What the first sections of all operations have in common. -/
theorem begins_of_begin {rest : Option Remainder} (h : begin rules o op s = (.ok rest, s')) :
    Begins s s' rest := by
  -- Only creation and deletion change a pipeline here; the others look for one or take one section.
  cases op with
  | create config =>
    obtain ⟨_, -, h⟩ := Handler.look_bind_eq_ok.1 h
    obtain ⟨_, accepted, haccept, h⟩ := Handler.bind_eq_ok.1 h
    obtain ⟨rfl, rfl⟩ := Handler.pure_eq_ok.1 h
    obtain ⟨-, -, rfl⟩ := accept_eq_ok haccept
    exact .of_settled rfl (fun _ => rfl) fun id => isSome_insert ..
  | delete key =>
    obtain ⟨_, t, hwithdraw, h⟩ := Handler.bind_eq_ok.1 h
    obtain ⟨rfl, rfl⟩ := Handler.pure_eq_ok.1 h
    obtain ⟨p, -, -, rfl⟩ := withdraw_eq_ok hwithdraw
    exact .of_settled rfl (fun _ => rfl) fun id => isSome_erase ..
  | deadLetters key =>
    obtain ⟨_, -, h⟩ := Handler.look_bind_eq_ok.1 h
    obtain ⟨rfl, rfl⟩ := Handler.pure_eq_ok.1 h
    exact .of_ensureExists (fun _ => rfl) nofun
  | consume key size =>
    obtain ⟨size, -, h⟩ := Handler.look_bind_eq_ok.1 h
    obtain ⟨_, hthere, h⟩ := Handler.look_bind_eq_ok.1 h
    obtain ⟨rfl, rfl⟩ := Handler.pure_eq_ok.1 h
    refine .of_ensureExists (fun _ => rfl) fun id b hb => ?_
    obtain ⟨rfl, rfl⟩ := Remainder.only_eq_some hb
    exact ensureExists_eq_ok.1 hthere
  | purge key =>
    obtain ⟨_, -, h⟩ := Handler.look_bind_eq_ok.1 h
    obtain ⟨rfl, rfl⟩ := Handler.pure_eq_ok.1 h
    exact .of_ensureExists (fun _ => rfl) nofun
  | _ =>
    obtain ⟨reply, t, hperform, h⟩ := Handler.bind_eq_ok.1 h
    obtain ⟨rfl, rfl⟩ := Handler.pure_eq_ok.1 h
    exact ⟨queues_perform rfl hperform, fun id => hasPipeline_perform rfl hperform, nofun⟩

/-- A second section leaves the pipelines where they are. -/
theorem hasPipeline_finish (s : Orchestrator) (rules : Rules) (o : Occasion) (r : Remainder)
    (id : String) : (s.finish rules o r).hasPipeline id = s.hasPipeline id := by
  apply hasPipeline_of_pipelines
  cases r with
  | clear key => exact pipelines_emptyQueue s key
  | _ => rfl

/-- A second section settles whether there is a queue, or leaves it as it is. -/
theorem hasQueue_finish (s : Orchestrator) (rules : Rules) (o : Occasion) (r : Remainder)
    (id : String) :
    (s.finish rules o r).hasQueue id = (r.queue? id).getD (s.hasQueue id) := by
  cases r with
  | seed | take => exact isSome_insert ..
  | drop => exact isSome_erase ..
  | look => rfl
  | clear key =>
    rw [finish]
    rcases emptyQueue_cases s key with ⟨-, hsame⟩ | ⟨q, hthere, hempty⟩
    · rw [hsame]
      rfl
    · rw [hempty]
      exact isSome_replace _ id hthere

theorem hasPipeline_fire (s : Orchestrator) (o : Occasion) (t : Timer) (id : String) :
    (s.fire o t).2.hasPipeline id = s.hasPipeline id := by
  rcases transition_eq { s with timers := s.timers.erase t } o t.id t.source t.target with
    ⟨-, hsame⟩ | ⟨p, hp, -, -, -, -, hinsert⟩
  · rw [fire, hsame]
    rfl
  · exact hasPipeline_replace hp hinsert

end Section

/-! ### What steps do -/

namespace Shared

section Last

variable {f : Remainder → Option Bool} {rs more : List Remainder}

theorem last_append : last f (rs ++ more) = (last f more).or (last f rs) := by
  rw [last, List.filterMap_append, List.getLast?_append]
  rfl

theorem last_toList (rest : Option Remainder) : last f rest.toList = rest.bind f := by
  cases rest with
  | none => rfl
  | some r =>
    rw [last, Option.toList_some, List.filterMap_cons, Option.bind_some]
    cases f r <;> rfl

theorem last_eq_none_iff : last f rs = none ↔ ∀ r ∈ rs, f r = none := by
  rw [last, List.getLast?_eq_none_iff, List.filterMap_eq_nil_iff]

/-- What is said last is said by one of the operations. -/
theorem exists_of_last {b : Bool} (h : last f rs = some b) : ∃ r ∈ rs, f r = some b :=
  List.mem_filterMap.1 (List.mem_of_getLast? h)

end Last

section Step

variable {rules : Rules} {c : Shared} {m : Move} {id : String}

/-- An operation that is refused begins nothing. -/
theorem begins_start (rules : Rules) (c : Shared) (o : Occasion) (op : Operation) :
    ∃ rest, c.begins rules (.start o op) = rest.toList ∧
      Begins c.store (c.step rules (.start o op)).store rest := by
  rcases h : begin rules o op c.store with ⟨fault | rest, s⟩
  · refine ⟨none, ?_, ?_⟩
    · rw [begins, h]
      rfl
    · rw [step, h, atomic_begin rules o op _ _ _ h]
      exact ⟨rfl, fun _ => rfl, nofun⟩
  · refine ⟨rest, ?_, ?_⟩
    · rw [begins, h]
    · rw [step, h]
      exact begins_of_begin h

/-- The store after a finished operation, if there is one to be finished. -/
theorem store_finish (rules : Rules) (c : Shared) (o : Occasion) (place : Nat) :
    (c.step rules (.finish o place)).store =
      c.underWay[place]?.elim c.store (c.store.finish rules o) := rfl

theorem hasPipeline_step : (c.step rules m).store.hasPipeline id =
    (last (·.pipeline? id) (c.begins rules m)).getD (c.store.hasPipeline id) := by
  cases m with
  | start o op =>
    obtain ⟨rest, hrest, hbegins⟩ := begins_start rules c o op
    rw [hbegins.pipelines, hrest, last_toList]
  | finish o place =>
    rw [store_finish]
    cases c.underWay[place]? with
    | none => rfl
    | some r => exact hasPipeline_finish c.store rules o r id
  | fire o t =>
    rw [step]
    dsimp only
    split
    · exact hasPipeline_fire c.store o t id
    · rfl

theorem hasQueue_step : (c.step rules m).store.hasQueue id =
    (last (·.queue? id) (c.finishes m)).getD (c.store.hasQueue id) := by
  cases m with
  | start o op =>
    obtain ⟨rest, -, hbegins⟩ := begins_start rules c o op
    exact hasQueue_of_queues hbegins.queues
  | finish o place =>
    rw [store_finish, finishes, last_toList]
    cases c.underWay[place]? with
    | none => rfl
    | some r => exact hasQueue_finish c.store rules o r id
  | fire o t =>
    rw [step]
    dsimp only
    split
    · exact hasQueue_of_queues (queues_fire c.store o t)
    · rfl

/-- What is under way has been begun and is not finished yet. -/
theorem mem_underWay_step {r : Remainder} :
    r ∈ c.finishes m ∨ r ∈ (c.step rules m).underWay ↔ r ∈ c.underWay ∨ r ∈ c.begins rules m := by
  cases m with
  | start | fire => simp [finishes, step]
  | finish o place =>
    show r ∈ c.underWay[place]?.toList ∨ r ∈ c.underWay.eraseIdx place ↔ _ ∨ r ∈ []
    rw [Option.mem_toList, List.mem_eraseIdx_iff_getElem?, List.mem_iff_getElem?]
    constructor
    · rintro (h | ⟨i, -, h⟩)
      · exact .inl ⟨place, h⟩
      · exact .inl ⟨i, h⟩
    · rintro (⟨i, h⟩ | h)
      · by_cases hi : i = place
        · exact .inl (hi ▸ h)
        · exact .inr ⟨i, hi, h⟩
      · cases h

theorem finishes_subset {r : Remainder} (hr : r ∈ c.finishes m) : r ∈ c.underWay := by
  cases m with
  | finish o place => exact List.mem_of_getElem? (Option.mem_toList.1 hr)
  | start | fire => cases hr

/-- What is begun in a step leaves the queue to the pipeline that is there after the step. -/
theorem owner_of_begins {r : Remainder} {b : Bool} (hr : r ∈ c.begins rules m)
    (hb : r.queue? id = some b) : (c.step rules m).store.hasPipeline id = b := by
  cases m with
  | start o op =>
    obtain ⟨rest, hrest, hbegins⟩ := begins_start rules c o op
    rw [hrest, Option.mem_toList] at hr
    exact hbegins.owner r hr id b hb
  | finish | fire => cases hr

end Step

/-! ### What runs do -/

section Run

variable {rules : Rules} {c : Shared} {moves : List Move} {id : String}

/-- An operation whose two sections follow one another is performed as a whole. -/
theorem run_undisturbed (rules : Rules) (s : Orchestrator) (o : Occasion) (op : Operation) :
    run rules ⟨s, []⟩ [.start o op, .finish o 0] = ⟨s.step rules (.perform o op), []⟩ := by
  have hsections := congrArg Prod.snd (congrFun (perform_eq_sections rules o op) s)
  have hstate : ((do let _ ← perform rules o op; return ()) s).2 = (perform rules o op s).2 := by
    rw [Handler.bind_apply]
    rcases perform rules o op s with ⟨_ | _, _⟩ <;> rfl
  rw [Orchestrator.step, ← hstate, hsections, Handler.bind_apply]
  rcases hbegin : begin rules o op s with ⟨fault | rest, t⟩
  · simp [run, step, begins, hbegin]
  · cases rest <;> simp [run, step, begins, hbegin]

/-- The operation that is begun last, of those that bring or remove the pipeline of an id, decides
whether it is there. -/
theorem hasPipeline_run : (c.run rules moves).store.hasPipeline id =
    (last (·.pipeline? id) (c.begun rules moves)).getD (c.store.hasPipeline id) := by
  induction moves generalizing c with
  | nil => rfl
  | cons m rest ih =>
    refine (ih (c := c.step rules m)).trans ?_
    rw [begun, last_append, hasPipeline_step]
    -- Either a later step settles it, or this one has the last word.
    cases last (·.pipeline? id) ((c.step rules m).begun rules rest) <;> rfl

/-- The operation that is finished last, of those that settle whether an id has a queue, decides
it. -/
theorem hasQueue_run : (c.run rules moves).store.hasQueue id =
    (last (·.queue? id) (c.finished rules moves)).getD (c.store.hasQueue id) := by
  induction moves generalizing c with
  | nil => rfl
  | cons m rest ih =>
    refine (ih (c := c.step rules m)).trans ?_
    rw [finished, last_append, hasQueue_step]
    cases last (·.queue? id) ((c.step rules m).finished rules rest) <;> rfl

/-- What is begun in a run is finished in it, or still under way. -/
theorem mem_underWay_run {r : Remainder} :
    r ∈ c.finished rules moves ∨ r ∈ (c.run rules moves).underWay ↔
      r ∈ c.underWay ∨ r ∈ c.begun rules moves := by
  induction moves generalizing c with
  | nil => simp [finished, begun, run]
  | cons m rest ih =>
    have hrest : r ∈ (c.step rules m).finished rules rest ∨
        r ∈ (c.run rules (m :: rest)).underWay ↔
          r ∈ (c.step rules m).underWay ∨ r ∈ (c.step rules m).begun rules rest := ih
    rw [finished, begun, List.mem_append, List.mem_append, or_assoc, hrest, ← or_assoc,
      mem_underWay_step, or_assoc]

/-- Where no pipeline comes or goes, what is begun leaves the queue to the pipeline that has been
there all the time. -/
theorem owner_of_begun {r : Remainder} {b : Bool}
    (hnone : last (·.pipeline? id) (c.begun rules moves) = none)
    (hr : r ∈ c.begun rules moves) (hb : r.queue? id = some b) : c.store.hasPipeline id = b := by
  induction moves generalizing c with
  | nil => cases hr
  | cons m rest ih =>
    rw [begun, last_append, Option.or_eq_none_iff] at hnone
    have hsame : (c.step rules m).store.hasPipeline id = c.store.hasPipeline id := by
      rw [hasPipeline_step, hnone.2]
      rfl
    rw [← hsame]
    rcases List.mem_append.1 hr with hr | hr
    · exact owner_of_begins hr hb
    · exact ih hnone.1 hr

/-- What is under way agrees with the pipeline of an id about the queue, which is there if the
pipeline is, unless one of the operations under way is still to settle it. -/
structure Steady (c : Shared) (id : String) : Prop where
  owner : ∀ r ∈ c.underWay, ∀ b, r.queue? id = some b → c.store.hasPipeline id = b
  settled : (∀ r ∈ c.underWay, r.queue? id = none) →
    c.store.hasQueue id = c.store.hasPipeline id

/-- A step that crosses no other operation keeps to this. -/
theorem Steady.step {m : Move} (h : c.Steady id) (hcross : ¬ c.Crosses rules m) :
    (c.step rules m).Steady id := by
  cases hbegins : last (·.pipeline? id) (c.begins rules m) with
  | some b =>
    obtain ⟨r, hr, hb⟩ := exists_of_last hbegins
    have hfree : ∀ r' ∈ c.underWay, r'.queue? id = none := by
      intro r' hr'
      by_contra hqueue
      exact hcross ⟨id, ⟨r, hr, by rw [hb]; nofun⟩, r', hr', hqueue⟩
    have hqueue : r.queue? id = some b := Remainder.queue?_of_pipeline? hb
    constructor
    · intro r' hr' b' hb'
      rcases mem_underWay_step.1 (.inr hr') with hr' | hr'
      · exact absurd ((hfree r' hr').symm.trans hb') nofun
      · exact owner_of_begins hr' hb'
    · intro hnone
      have hnever : r.queue? id = none := by
        rcases mem_underWay_step.2 (.inr hr) with hr | hr
        · exact hfree r (finishes_subset hr)
        · exact hnone r hr
      exact absurd (hqueue.symm.trans hnever) nofun
  | none =>
    have hsame : (c.step rules m).store.hasPipeline id = c.store.hasPipeline id := by
      rw [hasPipeline_step, hbegins]
      rfl
    constructor
    · intro r hr b hb
      rcases mem_underWay_step.1 (.inr hr) with hr | hr
      · exact hsame.trans (h.owner r hr b hb)
      · exact owner_of_begins hr hb
    · intro hnone
      rw [hasQueue_step, hsame]
      cases hfinishes : last (·.queue? id) (c.finishes m) with
      | some b =>
        obtain ⟨r, hr, hb⟩ := exists_of_last hfinishes
        exact (h.owner r (finishes_subset hr) b hb).symm
      | none =>
        refine h.settled fun r hr => ?_
        rcases mem_underWay_step.2 (.inl hr) with hr | hr
        · exact last_eq_none_iff.1 hfinishes r hr
        · exact hnone r hr

theorem Steady.run (h : c.Steady id) (hcross : ∀ before m, before ++ [m] <+: moves →
    ¬ (c.run rules before).Crosses rules m) : (c.run rules moves).Steady id := by
  induction moves generalizing c with
  | nil => exact h
  | cons m rest ih =>
    refine ih (c := c.step rules m) (h.step (hcross [] m (List.prefix_append [m] rest))) ?_
    exact fun before n hprefix => hcross (m :: before) n (List.cons_prefix_cons.2 ⟨rfl, hprefix⟩)

/-- Between two moments when nothing is under way, the same operations are begun and finished. -/
theorem mem_finished_iff {r : Remainder} (hbefore : c.underWay = [])
    (hafter : (c.run rules moves).underWay = []) :
    r ∈ c.finished rules moves ↔ r ∈ c.begun rules moves := by
  have h : r ∈ c.finished rules moves ∨ r ∈ (c.run rules moves).underWay ↔
      r ∈ c.underWay ∨ r ∈ c.begun rules moves := mem_underWay_run
  rwa [hbefore, hafter, or_iff_left List.not_mem_nil, or_iff_right List.not_mem_nil] at h

end Run

/-- Some operations are begun while pipelines and queues are in step and nothing else is under way,
and all of them are finished in the end; their sections may come in any order. Pipelines and queues
are then in step exactly when the last operation of those that settle the queue of an id agrees with
the one that has brought or removed its pipeline last. They are in any case if no pipeline comes or
goes while another operation is still to settle its queue. -/
theorem in_step_iff (rules : Rules) (c : Shared) (moves : List Move) (hstep : c.store.InStep)
    (hbefore : c.underWay = []) (hafter : (c.run rules moves).underWay = []) :
    ((c.run rules moves).store.InStep ↔
      ∀ id b, last (·.pipeline? id) (c.begun rules moves) = some b →
        last (·.queue? id) (c.finished rules moves) = some b) ∧
    ((∀ before m, before ++ [m] <+: moves → ¬ (c.run rules before).Crosses rules m) →
      (c.run rules moves).store.InStep) := by
  have hsame {r : Remainder} := mem_finished_iff (r := r) hbefore hafter
  refine ⟨forall_congr' fun id => ?_, fun hcross id => ?_⟩
  · rw [hasQueue_run, hasPipeline_run, hstep id]
    cases hlast : last (·.pipeline? id) (c.begun rules moves) with
    | some b =>
      -- The operation that speaks last about the pipeline is finished, and speaks about the queue.
      obtain ⟨r, hr, hb⟩ := exists_of_last hlast
      cases hqueue : last (·.queue? id) (c.finished rules moves) with
      | none =>
        have hnone := last_eq_none_iff.1 hqueue r (hsame.2 hr)
        rw [Remainder.queue?_of_pipeline? hb] at hnone
        cases hnone
      | some b' => simp
    | none =>
      refine ⟨fun _ => nofun, fun _ => ?_⟩
      cases hqueue : last (·.queue? id) (c.finished rules moves) with
      | none => rfl
      | some b =>
        obtain ⟨r, hr, hb⟩ := exists_of_last hqueue
        exact (owner_of_begun hlast (hsame.1 hr) hb).symm
  · have hsteady : c.Steady id := ⟨by rw [hbefore]; nofun, fun _ => hstep id⟩
    exact (hsteady.run hcross).settled (by rw [hafter]; nofun)

/-- The creation of a pipeline with a topic and a sink. -/
def ordering : Operation :=
  .create ⟨"orders", "Orders", .object [("topics", .array [.null])], .object [], none, none, none,
    none, {}⟩

/-- An orchestrator that has just started, and nobody has called yet. -/
def started : Shared := ⟨Surroundings.orchestrator, []⟩

/-- A pipeline is created and terminated. -/
def terminated : List Move :=
  [.start (occasion 0 0) ordering, .finish (occasion 1 0) 0,
    .start (occasion 2 10) (.act "orders" .terminate),
    .fire (occasion 3 2010) ⟨"orders", .terminating, .terminated, 2010, moment 2, none⟩]

/-- The pipeline is terminated. One caller deletes it and another one creates it again, before the
first one has turned to the queue. -/
def recreated (first second : Nat) : List Move :=
  terminated ++ [.start (occasion 4 3000) (.delete "orders"), .start (occasion 5 3000) ordering,
    .finish (occasion 6 3000) first, .finish (occasion 7 3000) second]

/-- The pipeline is terminated. One caller asks for a batch and finds the pipeline, which another
one then deletes with its queue, before the first one takes the batch. -/
def lateBatch : List Move :=
  terminated ++ [.start (occasion 4 3000) (.consume "orders" none),
    .start (occasion 5 3000) (.delete "orders"), .finish (occasion 6 3000) 1,
    .finish (occasion 7 3000) 0]

/-- When the caller who deletes the pipeline comes first again, its successor has a queue. -/
theorem recreated_in_order_in_step :
    let c := started.run {} (recreated 0 0)
    c.underWay = [] ∧ c.store.hasPipeline "orders" = true ∧ c.store.InStep := by
  intro c
  have hafter : c.underWay = [] := by decide
  have hbegun : started.begun {} (recreated 0 0) =
      [.seed "orders", .drop "orders", .seed "orders"] := by decide
  have hfinished : started.finished {} (recreated 0 0) =
      [.seed "orders", .drop "orders", .seed "orders"] := by decide
  refine ⟨hafter, by decide, ?_⟩
  refine (in_step_iff {} started (recreated 0 0) (fun _ => rfl) rfl hafter).1.2 fun id b hb => ?_
  rw [hbegun] at hb
  rw [hfinished]
  exact hb

/-- When it is the other way round, the deletion takes the queue of the successor, which is left
without. A batch that is taken too late leaves a queue to no pipeline. -/
theorem overtaken_deletion_takes_queue :
    (¬ ∀ moves : List Move, (started.run {} moves).underWay = [] →
      (started.run {} moves).store.InStep) ∧
      let successor := (started.run {} (recreated 1 0)).store
      let late := started.run {} lateBatch
      successor.hasPipeline "orders" = true ∧ successor.hasQueue "orders" = false ∧
        late.underWay = [] ∧ late.store.hasPipeline "orders" = false ∧
        late.store.hasQueue "orders" = true := by
  refine ⟨fun h => ?_, by decide, by decide, by decide, by decide, by decide⟩
  have heq := h (recreated 1 0) (by decide) "orders"
  exact absurd heq (by decide)

end Shared

end PipelineConsole.Orchestrator
