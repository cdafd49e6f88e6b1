import Mathlib.Algebra.GroupWithZero.Nat
import PipelineConsole.Proofs.Sync.Reports
import PipelineConsole.Sync.Manager

/-!
# Runs of a manager with its worker

A run is a list of events in any order: calls of the manager, steps of the worker and steps of the
application of updates. The order says nothing about when a source answers or how long an update
waits in its queue.

## Main definitions

* `StatusSync.Event`, `StatusSync.step`, `StatusSync.run` — events and runs
* `Update.effect` — what an update does to the entry of its pipeline

## Main results

* `worker_step` — what an event does to the worker and the queue
* `checksWatched_run` — in every run, only watched pipelines are checked
* `queueAgrees_run` — the last status that waits for a pipeline is the one that the worker remembers
-/

namespace PipelineConsole

/-- What an update does to the entry of its pipeline. -/
def Update.effect : Update → CacheEntry → CacheEntry
  | .status _ st, _ => ⟨some st, none, none⟩
  | .failed _ error, e => { e with error := some error }

namespace StatusSync

open Update (lastStatus lastStatus_append)

/-- What can happen to a manager with its worker. -/
inductive Event where
  /-- The first step of watching. -/
  | enlist (id : String)
  /-- The second step of watching: the worker is told. -/
  | announce (id : String)
  | unwatch (id : String)
  | assume (now : Nat) (id : String) (status : Status)
  | assumeAction (now : Nat) (id : String) (action : Action)
  | revert (id : String)
  | obey
  | work (input : Worker.Input)
  | applyNext
  | expire (now : Nat)

/-- The state after an event. Commands reach the worker through their queue only. -/
def step (s : StatusSync) : Event → StatusSync
  | .enlist id => s.enlist id
  | .announce id => s.tell (.watch id)
  | .unwatch id => s.unwatch id
  | .assume now id status => (s.assume now id status).1
  | .assumeAction now id action => (s.assumeAction now id action).1
  | .revert id => (s.revert id).1
  | .obey => s.obey
  | .work (.command _) => s
  | .work input => s.work input
  | .applyNext => s.applyNext.1
  | .expire now => (s.expire now).1

/-- The state after a list of events. -/
def run (s : StatusSync) (events : List Event) : StatusSync := events.foldl step s

section Run

variable {s : StatusSync} {e : Event} {events more : List Event}

@[simp] theorem run_nil : run s [] = s := rfl

@[simp] theorem run_cons : run s (e :: events) = run (step s e) events := rfl

@[simp] theorem run_append : run s (events ++ more) = run (run s events) more :=
  List.foldl_append

end Run

/-! ### The parts of a state that a step leaves alone -/

section Frame

variable (s : StatusSync)

/-- An update of a watched pipeline changes its entry. -/
theorem cache_apply {u : Update} (h : u.id ∈ s.watched) :
    (s.apply u).1.cache = (s.cache.change u.id u.effect).1 := by
  unfold apply
  rw [if_pos h]
  cases u <;> rfl

/-- An update of a pipeline that is not watched is dropped. -/
theorem apply_of_not_mem {u : Update} (h : u.id ∉ s.watched) : s.apply u = (s, []) := by
  unfold apply
  rw [if_neg h]

theorem worker_apply (u : Update) : (s.apply u).1.worker = s.worker := by
  unfold apply
  split <;> rfl

theorem updates_apply (u : Update) : (s.apply u).1.updates = s.updates := by
  unfold apply
  split <;> rfl

theorem watched_apply (u : Update) : (s.apply u).1.watched = s.watched := by
  unfold apply
  split <;> rfl

theorem life_apply (u : Update) : (s.apply u).1.life = s.life := by
  unfold apply
  split <;> rfl

/-- Changing the entry of one pipeline leaves the others alone. -/
theorem entry_of_change {s s' : StatusSync} {id key : String} {f : CacheEntry → CacheEntry}
    (h : s'.cache = (s.cache.change key f).1) :
    (s'.cache.get? id).getD {} =
      if id = key then f ((s.cache.get? key).getD {}) else (s.cache.get? id).getD {} := by
  rw [h, Cache.change, Table.get?_insert]
  split <;> rfl

theorem worker_applyNext : s.applyNext.1.worker = s.worker := by
  unfold applyNext
  split
  · rfl
  · exact worker_apply ..

theorem updates_applyNext : s.applyNext.1.updates = s.updates.tail := by
  unfold applyNext
  split
  · next h => rw [h, List.tail_nil]
  · next h => rw [h, List.tail_cons, updates_apply]

theorem watched_applyNext : s.applyNext.1.watched = s.watched := by
  unfold applyNext
  split
  · rfl
  · exact watched_apply ..

theorem life_applyNext : s.applyNext.1.life = s.life := by
  unfold applyNext
  split
  · rfl
  · exact life_apply ..

end Frame

/-- How many updates an event takes from the queue, if there is one. -/
def Event.takes : Event → Nat
  | .applyNext => 1
  | _ => 0

/-- What happens to the worker and its queue: either the worker is left alone, or it takes an input,
which is a command or the one of the event, and what it sends is queued. -/
theorem worker_step (s : StatusSync) (e : Event) :
    ((step s e).worker = s.worker ∧ (step s e).updates = s.updates.drop e.takes) ∨
      e.takes = 0 ∧ ∃ input, ((∃ c, input = .command c) ∨ e = .work input) ∧
        (step s e).worker = (s.worker.step input).1 ∧
        (step s e).updates = s.updates ++ (s.worker.step input).2 := by
  cases e with
  | applyNext => exact .inl ⟨worker_applyNext s, (updates_applyNext s).trans List.drop_one.symm⟩
  | obey =>
    rw [step, obey]
    split
    · exact .inl ⟨rfl, rfl⟩
    · next c rest _ =>
      split
      · exact .inr ⟨rfl, .command c, .inl ⟨c, rfl⟩, rfl, rfl⟩
      · exact .inl ⟨rfl, rfl⟩
  | work input =>
    cases input with
    | command c => exact .inl ⟨rfl, rfl⟩
    | _ => exact .inr ⟨rfl, _, .inr rfl, rfl, rfl⟩
  | _ => exact .inl ⟨rfl, rfl⟩

/-- The life time of overrides is fixed. -/
theorem life_step (s : StatusSync) (e : Event) : (step s e).life = s.life := by
  cases e with
  | applyNext => exact life_applyNext s
  | obey =>
    rw [step, obey]
    split
    · rfl
    · split <;> rfl
  | work input => cases input <;> rfl
  | _ => rfl

theorem life_run (s : StatusSync) (events : List Event) : (run s events).life = s.life := by
  induction events generalizing s with
  | nil => rfl
  | cons e rest ih => exact (ih (step s e)).trans (life_step s e)

/-- A pipeline stays watched until it is asked not to be. -/
theorem watched_step {s : StatusSync} {id : String} {e : Event} (h : id ∈ s.watched)
    (hkept : e ≠ .unwatch id) : id ∈ (step s e).watched := by
  cases e with
  | enlist other => exact IdSet.mem_insert.2 (.inr h)
  | unwatch other => exact IdSet.mem_erase.2 ⟨h, fun heq => hkept (heq ▸ rfl)⟩
  | applyNext =>
    rw [step, watched_applyNext]
    exact h
  | obey =>
    rw [step, obey]
    split
    · exact h
    · split <;> exact h
  | work input => cases input <;> exact h
  | _ => exact h

section Invariants

variable {s : StatusSync}

/-- Only watched pipelines are checked. -/
theorem checksWatched_run (h : s.worker.ChecksWatched) (events : List Event) :
    (run s events).worker.ChecksWatched := by
  induction events generalizing s with
  | nil => exact h
  | cons e rest ih =>
    refine ih ?_
    rcases worker_step s e with ⟨hworker, -⟩ | ⟨-, input, -, hworker, -⟩
    · rw [hworker]
      exact h
    · rw [hworker]
      exact Worker.checksWatched_step h input

/-- The worker stays with its rounds. -/
theorem inRounds_step (hrounds : s.worker.InRounds) (e : Event) : (step s e).worker.InRounds := by
  rcases worker_step s e with ⟨hworker, -⟩ | ⟨-, input, -, hworker, -⟩
  · rw [hworker]
    exact hrounds
  · rw [hworker]
    exact Worker.inRounds_step hrounds input

/-- The last status that waits for a pipeline, if the worker remembers one, is the one that the
worker remembers. -/
def QueueAgrees (s : StatusSync) : Prop :=
  ∀ id remembered waiting, s.worker.lastSeen.get? id = some remembered →
    lastStatus id s.updates = some waiting → waiting = remembered

theorem QueueAgrees.step (h : s.QueueAgrees) (e : Event) : (step s e).QueueAgrees := by
  intro id remembered waiting hseen hwaits
  rcases worker_step s e with ⟨hworker, hupdates⟩ | ⟨-, input, -, hworker, hupdates⟩
  · rw [hworker] at hseen
    rw [hupdates] at hwaits
    exact h id remembered waiting hseen (Update.lastStatus_of_drop hwaits)
  · rw [hworker] at hseen
    rw [hupdates, lastStatus_append] at hwaits
    -- The worker remembers what it has just sent, and that is also what waits last.
    rcases Worker.lastSeen_step s.worker input id with hlast | hlast
    · rw [hlast] at hseen
      cases hsent : lastStatus id (s.worker.step input).2 with
      | none =>
        rw [hsent, Option.none_or] at hseen hwaits
        exact h id remembered waiting hseen hwaits
      | some st =>
        rw [hsent, Option.some_or] at hseen hwaits
        exact Option.some.inj (hwaits.symm.trans hseen)
    · rw [hlast] at hseen
      cases hseen

theorem queueAgrees_run (h : s.QueueAgrees) (events : List Event) : (run s events).QueueAgrees := by
  induction events generalizing s with
  | nil => exact h
  | cons e rest ih => exact ih (h.step e)

theorem queueAgrees_start (config : TransportConfig) (life : Option Nat) (ids : List String) :
    (start config life ids).QueueAgrees := by
  intro id remembered waiting _ hwaits
  cases hwaits

end Invariants

end StatusSync

end PipelineConsole
