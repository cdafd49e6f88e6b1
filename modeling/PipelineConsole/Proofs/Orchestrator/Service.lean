import PipelineConsole.Proofs.Orchestrator.Run

/-!
# The orchestrator by itself

Nobody asks for a change of status by hand here: there are operations, and timers that they set.
Such a timer always leads from an in-between status to the one in which it is completed, so that no
timer makes a pipeline active that is not.

## Main definitions

* `Status.completion?` — the status in which an in-between status is completed
* `Orchestrator.Event.IsService` — operations and timers
* `Orchestrator.Regular` — every timer completes an in-between status

## Main results

* `regular_run` — the timers that operations set are of this kind
-/

namespace PipelineConsole

/-- The status that follows by itself, if there is one. -/
def Status.completion? : Status → Option Status
  | created | resuming => some running
  | pausing => some paused
  | stopping => some stopped
  | terminating => some terminated
  | running | paused | stopped | terminated | failed => none

/-- An action is completed by the status that it leads to. -/
theorem Action.completion?_optimistic (a : Action) : a.optimistic.completion? = some a.final := by
  cases a <;> rfl

/-- No completion makes a pipeline active. -/
theorem Status.isActive_of_completion? {source target : Status}
    (h : source.completion? = some target) (ha : target.isActive = true) :
    source.isActive = true := by
  cases source <;> simp [completion?] at h <;> subst h <;> first | rfl | exact ha

namespace Orchestrator

/-- An operation, or a timer that fires. -/
def Event.IsService : Event → Prop
  | .perform .. | .fire .. => True
  | .simulate .. | .transition .. => False

/-- Every timer completes an in-between status. -/
def Regular (s : Orchestrator) : Prop := ∀ t ∈ s.timers, t.source.completion? = some t.target

section Timers

variable {s s' : Orchestrator} {rules : Rules} {o : Occasion} {id : String}

theorem Regular.schedule {source target : Status} (h : s.Regular)
    (hc : source.completion? = some target) (delay : Nat) :
    (s.schedule o id source target delay).Regular := by
  intro t ht
  rw [timers_schedule, List.mem_append, List.mem_singleton] at ht
  rcases ht with hold | rfl
  · exact h t hold
  · exact hc

theorem Regular.of_timers (h : s.Regular) (ht : s'.timers = s.timers) : s'.Regular := by
  intro t hmem
  rw [ht] at hmem
  exact h t hmem

theorem Regular.act {action : Action} {status : Status} (h : s.Regular)
    (hact : act rules o id action s = (.ok status, s')) : s'.Regular := by
  obtain ⟨p, -, -, rfl⟩ := act_eq_ok hact
  exact Regular.schedule (h.of_timers (timers_put ..)) action.completion?_optimistic _

theorem Regular.terminateEach (ids : List String) (h : s.Regular) :
    (terminateEach rules o ids s).2.Regular :=
  terminateEach_induction (motive := Regular) (fun _ _ _ _ hs hact => hs.act hact) ids h

theorem Regular.perform {op : Operation} {reply : op.Reply} (h : s.Regular)
    (hop : perform rules o op s = (.ok reply, s')) : s'.Regular := by
  cases op with
  | create config =>
    obtain ⟨-, -, -, ht⟩ := create_eq_ok hop
    intro t hmem
    rw [ht, List.mem_append, List.mem_singleton] at hmem
    rcases hmem with hold | rfl
    · exact h t hold
    · rfl
  | rename id name =>
    obtain ⟨p, -, rfl⟩ := rename_eq_ok hop
    exact h.of_timers (timers_put ..)
  | edit id config =>
    obtain ⟨p, -, -, rfl⟩ := edit_eq_ok hop
    exact h.of_timers (timers_put ..)
  | delete id =>
    obtain ⟨p, -, -, rfl⟩ := delete_eq_ok hop
    exact h.of_timers (timers_dropQueue ..)
  | act id action => exact h.act hop
  | terminateAll =>
    obtain rfl : (s.terminateAll rules o).2 = s' := congrArg Prod.snd hop
    exact h.terminateEach _
  | _ => exact h.of_timers (perform_of_not_drivesPipelines rfl hop).2

/-- The timer that fires is the only one that goes. -/
theorem timers_fire (s : Orchestrator) (o : Occasion) (t : Timer) :
    (s.fire o t).2.timers = s.timers.erase t := by
  unfold fire
  rcases transition_eq { s with timers := s.timers.erase t } o t.id t.source t.target with
    ⟨-, h⟩ | ⟨p, -, -, -, -, h, -⟩
  · rw [h]
  · exact h

theorem Regular.step {e : Event} (h : s.Regular) (he : e.IsService) :
    (step rules s e).Regular := by
  cases e with
  | perform o op => exact perform_induction h fun _ _ hop => h.perform hop
  | fire o t =>
    rw [Orchestrator.step]
    split
    · intro u hu
      rw [timers_fire] at hu
      exact h u (List.mem_of_mem_erase hu)
    · exact h
  | simulate => exact he.elim
  | transition => exact he.elim

/-- In a run of operations and timers, every timer completes an in-between status. -/
theorem regular_run {events : List Event} (h : s.Regular) (he : ∀ e ∈ events, e.IsService) :
    (run rules s events).Regular := by
  induction events generalizing s with
  | nil => exact h
  | cons e rest ih =>
    rw [List.forall_mem_cons] at he
    exact ih (h.step he.1) he.2

/-- An orchestrator that has just started has no timers. -/
theorem regular_fresh (welcomeAt lagAt : Timestamp) : (fresh welcomeAt lagAt).Regular :=
  fun _ ht => absurd ht (List.not_mem_nil)

end Timers

end Orchestrator

end PipelineConsole
