import PipelineConsole.Proofs.Orchestrator.Turns

/-!
# Runs on a clock

On a clock, time does not go back, and each timer fires at the very time at which it is due; several
that are due at one time fire in any order. A chronicle is kept along such a run: it notes by which
event each pending timer was set, and by which event the status of each id was changed last. The
creation and the deletion of a pipeline are changes of the status of its id.

## Main definitions

* `Moment`, `Chronicle`, `Chronicle.step`, `Chronicle.run` — what is noted along a run
* `Chronicle.OnClock` — the events of a run keep to the clock
* `Chronicle.CompletesOwn` — a timer that fires completes the very wait that it was set for

## Main results

* `isNext_of_earliest?` — of several timers that are due, the first one may be taken
* `pending_of_mem` — where the timer that fires stands in the chronicle
* `tracks_step` — the chronicle is about the timers that are pending
-/

namespace PipelineConsole.Orchestrator

/-- The time of an event. -/
def Event.time : Event → Nat
  | .perform o _ | .fire o _ | .simulate o .. | .transition o .. => o.elapsed

/-- The place of an event in a run, and its time. -/
structure Moment where
  number : Nat
  time : Nat
  deriving DecidableEq, Repr

/-- The state that a run has led to, how many events there were and when the last one was, with the
moment at which each pending timer was set, and the moment at which the status of each id was
changed last. -/
structure Chronicle where
  state : Orchestrator
  number : Nat := 0
  now : Nat := 0
  pending : List (Timer × Moment) := []
  since : String → Moment := fun _ => ⟨0, 0⟩

namespace Chronicle

/-- Continues the chronicle by an event. New timers stand behind those that were pending. -/
def step (rules : Rules) (c : Chronicle) (e : Event) : Chronicle :=
  let after := Orchestrator.step rules c.state e
  let moment : Moment := ⟨c.number, e.time⟩
  { state := after
    number := c.number + 1
    now := e.time
    pending :=
      match e with
      | .fire _ t => c.pending.eraseP (·.1 = t)
      | _ => c.pending ++ (after.timers.drop c.state.timers.length).map (·, moment)
    since := fun id => if after.status? id = c.state.status? id then c.since id else moment }

/-- The chronicle of a run that goes on from what another one tells. -/
def run (rules : Rules) (c : Chronicle) (events : List Event) : Chronicle :=
  events.foldl (step rules) c

/-- The timer is pending, and none is due before it. -/
def IsNext (timers : List Timer) (t : Timer) : Prop := t ∈ timers ∧ ∀ u ∈ timers, t.due ≤ u.due

instance (timers : List Timer) (t : Timer) : Decidable (IsNext timers t) :=
  inferInstanceAs (Decidable (_ ∧ _))

/-- An event keeps to the clock. An operation may come before the timers that are due at its time,
but not after them. -/
def IsTimely (c : Chronicle) : Event → Prop
  | .perform o _ => c.now ≤ o.elapsed ∧ ∀ t ∈ c.state.timers, o.elapsed ≤ t.due
  | .fire o t => c.now ≤ o.elapsed ∧ IsNext c.state.timers t ∧ o.elapsed = t.due
  | .simulate .. | .transition .. => False

instance (c : Chronicle) : DecidablePred c.IsTimely
  | .perform .. => inferInstanceAs (Decidable (_ ∧ _))
  | .fire .. => inferInstanceAs (Decidable (_ ∧ _))
  | .simulate .. | .transition .. => inferInstanceAs (Decidable False)

/-- Every event of a run keeps to the clock; there are operations and timers only. -/
def OnClock (rules : Rules) : Chronicle → List Event → Prop
  | _, [] => True
  | c, e :: rest => c.IsTimely e ∧ OnClock rules (c.step rules e) rest

instance decidableOnClock (rules : Rules) : ∀ c events, Decidable (OnClock rules c events)
  | _, [] => inferInstanceAs (Decidable True)
  | c, e :: rest =>
    have := decidableOnClock rules (c.step rules e) rest
    inferInstanceAs (Decidable (_ ∧ _))

/-- When a timer carries out its change, the first timer of its kind was set by the very event that
put the pipeline into its present status, and the full delay of this status has passed since. -/
def CompletesOwn (rules : Rules) (c : Chronicle) (o : Occasion) (t : Timer) : Prop :=
  (c.state.fire o t).1 = true →
    c.pending.find? (·.1 = t) = some (t, c.since t.id) ∧
      o.elapsed = (c.since t.id).time + rules.delays.ofStatus t.source

instance (rules : Rules) (c : Chronicle) (o : Occasion) (t : Timer) :
    Decidable (c.CompletesOwn rules o t) :=
  inferInstanceAs (Decidable (_ → _))

/-- The pending timers of an id, with the moments at which they were set. -/
def entries (c : Chronicle) (id : String) : List (Timer × Moment) :=
  c.pending.filter (·.1.id = id)

/-- The chronicle is about the timers that are pending. -/
def Tracks (c : Chronicle) : Prop := c.pending.map Prod.fst = c.state.timers

section Run

variable {rules : Rules} {c : Chronicle} {e : Event} {events more : List Event}

@[simp] theorem run_nil : c.run rules [] = c := rfl

@[simp] theorem run_cons : c.run rules (e :: events) = (c.step rules e).run rules events := rfl

@[simp] theorem run_append :
    c.run rules (events ++ more) = (c.run rules events).run rules more :=
  List.foldl_append

/-- The chronicle of a run tells the state that the run leads to. -/
theorem state_run : (c.run rules events).state = Orchestrator.run rules c.state events := by
  induction events generalizing c with
  | nil => rfl
  | cons e rest ih => exact ih

theorem onClock_append :
    OnClock rules c (events ++ more) ↔
      OnClock rules c events ∧ OnClock rules (c.run rules events) more := by
  induction events generalizing c with
  | nil => simp [OnClock]
  | cons e rest ih => simp [OnClock, ih, and_assoc]

end Run

end Chronicle

/-! ### The timer that fires -/

theorem earliest?_eq_none {timers : List Timer} (h : earliest? timers = none) : timers = [] := by
  cases timers with
  | nil => rfl
  | cons t rest =>
    rw [earliest?] at h
    split at h
    · split at h <;> cases h
    · cases h

/-- The timer that is taken first is due no later than the others. -/
theorem isNext_of_earliest? {timers : List Timer} {t : Timer} (h : earliest? timers = some t) :
    Chronicle.IsNext timers t := by
  induction timers generalizing t with
  | nil => cases h
  | cons u rest ih =>
    rw [earliest?] at h
    cases hrest : earliest? rest with
    | none =>
      rw [hrest] at h
      obtain rfl := Option.some.inj h
      rw [earliest?_eq_none hrest]
      exact ⟨.head _, by simp⟩
    | some v =>
      obtain ⟨hmem, hfirst⟩ := ih hrest
      simp only [hrest] at h
      split at h
      · next hlt =>
        obtain rfl := Option.some.inj h
        exact ⟨.tail _ hmem, List.forall_mem_cons.2 ⟨Nat.le_of_lt hlt, hfirst⟩⟩
      · next hle =>
        obtain rfl := Option.some.inj h
        refine ⟨.head _, List.forall_mem_cons.2 ⟨Nat.le_refl _, fun w hw => ?_⟩⟩
        have hvw := hfirst w hw
        omega

namespace Chronicle

variable {rules : Rules} {c : Chronicle} {o : Occasion} {t : Timer}

theorem map_fst_eraseP (pending : List (Timer × Moment)) (t : Timer) :
    (pending.eraseP (·.1 = t)).map Prod.fst = (pending.map Prod.fst).erase t := by
  induction pending with
  | nil => rfl
  | cons e rest ih =>
    by_cases h : e.1 = t
    · simp [h]
    · simp [h, ih]

theorem map_fst_map_pair (timers : List Timer) (m : Moment) :
    (timers.map (·, m)).map Prod.fst = timers := by
  rw [List.map_map]
  exact List.map_id timers

/-- An operation adds the timers that it sets, at its own moment. -/
theorem step_perform {op : Operation} {reply : op.Reply} {s' : Orchestrator} {set : List Timer}
    (hop : perform rules o op c.state = (.ok reply, s'))
    (hset : s'.timers = c.state.timers ++ set) :
    c.step rules (.perform o op) =
      { state := s'
        number := c.number + 1
        now := o.elapsed
        pending := c.pending ++ set.map (·, ⟨c.number, o.elapsed⟩)
        since := fun id =>
          if s'.status? id = c.state.status? id then c.since id else ⟨c.number, o.elapsed⟩ } := by
  have hstate : Orchestrator.step rules c.state (.perform o op) = s' := by
    rw [Orchestrator.step, hop]
  simp [step, hstate, hset, Event.time]

/-- A refused operation lets time pass. -/
theorem step_refused {op : Operation} {fault : Fault}
    (hop : perform rules o op c.state = (.error fault, c.state)) :
    c.step rules (.perform o op) = { c with number := c.number + 1, now := o.elapsed } := by
  have hstate : Orchestrator.step rules c.state (.perform o op) = c.state := by
    rw [Orchestrator.step, hop]
  simp [step, hstate, Event.time]

/-- Where the timer that fires stands in the chronicle. -/
theorem pending_of_mem (h : c.Tracks) (hmem : t ∈ c.state.timers) :
    ∃ early m late, c.pending = early ++ (t, m) :: late ∧
      c.pending.find? (·.1 = t) = some (t, m) ∧ c.pending.eraseP (·.1 = t) = early ++ late := by
  rw [← h] at hmem
  obtain ⟨e, he, rfl⟩ := List.mem_map.1 hmem
  -- Of several timers that are alike, the one that was set first is meant.
  obtain ⟨⟨u, m⟩, early, late, hearly, hfound, hpending, herase⟩ :=
    List.exists_of_eraseP (p := fun f => decide (f.1 = e.1)) he (decide_eq_true rfl)
  obtain rfl : u = e.1 := of_decide_eq_true hfound
  refine ⟨early, m, late, hpending, ?_, herase⟩
  rw [hpending, List.find?_append, List.find?_eq_none.2 hearly]
  simp

/-- A timer that fires goes from the chronicle. -/
theorem step_fire (h : t ∈ c.state.timers) :
    c.step rules (.fire o t) =
      { state := (c.state.fire o t).2
        number := c.number + 1
        now := o.elapsed
        pending := c.pending.eraseP (·.1 = t)
        since := fun id =>
          if (c.state.fire o t).2.status? id = c.state.status? id then c.since id
          else ⟨c.number, o.elapsed⟩ } := by
  simp [step, Orchestrator.step, h, Event.time]

theorem tracks_step (h : c.Tracks) {e : Event} (he : c.IsTimely e) : (c.step rules e).Tracks := by
  cases e with
  | perform o op =>
    rcases perform_cases rules o op c.state with ⟨reply, s', hop⟩ | ⟨fault, hop⟩
    · obtain ⟨set, hset, -⟩ := turn_of_perform hop
      rw [step_perform hop hset, Tracks, List.map_append, h, hset, map_fst_map_pair]
    · rw [step_refused hop]
      exact h
  | fire o t =>
    rw [step_fire he.2.1.1, Tracks, map_fst_eraseP, h, timers_fire]
  | simulate => exact he.elim
  | transition => exact he.elim

end Chronicle

end PipelineConsole.Orchestrator
