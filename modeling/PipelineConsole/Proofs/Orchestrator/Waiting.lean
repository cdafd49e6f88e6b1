import PipelineConsole.Proofs.Orchestrator.Quota
import PipelineConsole.Proofs.Orchestrator.Turns

/-!
# No pipeline waits in vain

A pipeline in an in-between status waits for a timer. Termination may interrupt any wait, and then
the timer of that wait is still pending: it fires and is dropped, or finds another pipeline under
its id. Whichever way the timers fire, one that completes the present wait is among those that are
left.

## Main definitions

* `Orchestrator.Awaited` — every pipeline that waits has a timer that completes its status

## Main results

* `awaited_step` — every operation and every timer preserves this
* `waits_are_timed` — in every run, and a run without timers left has no pipeline that waits
-/

namespace PipelineConsole.Orchestrator

/-- Every pipeline in an in-between status has a timer that completes this status. -/
def Awaited (s : Orchestrator) : Prop :=
  ∀ id status target, s.status? id = some status → status.completion? = some target →
    ∃ t ∈ s.timers, t.id = id ∧ t.source = status ∧ t.target = target

section Awaited

variable {s s' : Orchestrator} {rules : Rules} {o : Occasion}

/-- A turn leaves a pipeline waiting only if it waited before, or else sets the timer. -/
theorem Turn.awaited {d : Delays} {id : String} {before : Option Status} {status target : Status}
    {set : List Timer} (h : Turn d o id before (some status) set)
    (hc : status.completion? = some target) :
    before = some status ∨ ∃ t ∈ set, t.id = id ∧ t.source = status ∧ t.target = target := by
  cases h with
  | kept => exact .inl rfl
  | created =>
    obtain rfl : Status.running = target := Option.some.inj hc
    exact .inr ⟨_, List.mem_singleton_self _, rfl, rfl, rfl⟩
  | acted _ a =>
    obtain rfl : a.final = target := Option.some.inj (a.completion?_optimistic.symm.trans hc)
    exact .inr ⟨_, List.mem_singleton_self _, rfl, rfl, rfl⟩

theorem Awaited.perform {op : Operation} {reply : op.Reply} (h : s.Awaited)
    (hop : perform rules o op s = (.ok reply, s')) : s'.Awaited := by
  obtain ⟨set, htimers, hturn⟩ := turn_of_perform hop
  intro id status target hstatus hc
  rw [htimers]
  have hid := hturn id
  rw [hstatus] at hid
  rcases hid.awaited hc with hbefore | ⟨t, ht, hnew⟩
  · obtain ⟨t, ht, hold⟩ := h id status target hbefore hc
    exact ⟨t, List.mem_append_left _ ht, hold⟩
  · exact ⟨t, List.mem_append_right _ (List.mem_filter.1 ht).1, hnew⟩

/-- A timer that fires is not one that a pipeline still needs: if it is the one that completes a
wait, then the wait is over. -/
theorem Awaited.fire (h : s.Awaited) (hreg : s.Regular) {t : Timer} (hmem : t ∈ s.timers) :
    (s.fire o t).2.Awaited := by
  have hregular : t.source.completion? = some t.target := hreg t hmem
  intro id status target hstatus hc
  rw [timers_fire]
  by_cases hfound : s.status? t.id = some t.source
  · have hcarried := (fire_carries (o := o) hfound (Status.canBecome_completion hregular)).2 id
    by_cases hid : id = t.id
    · rw [hstatus, if_pos hid] at hcarried
      obtain rfl : status = t.target := Option.some.inj hcarried
      rw [Status.completion?_completion hregular] at hc
      cases hc
    · rw [hstatus, if_neg hid] at hcarried
      obtain ⟨u, hu, huid, husource⟩ := h id status target hcarried.symm hc
      have hne : u ≠ t := fun heq => hid (by rw [← huid, heq])
      exact ⟨u, (List.mem_erase_of_ne hne).2 hu, huid, husource⟩
  · -- The timer is stale, so that it is none of those that are needed.
    have hdropped := (fire_drops (o := o) hfound).2 id
    rw [hstatus] at hdropped
    obtain ⟨u, hu, huid, husource, hutarget⟩ := h id status target hdropped.symm hc
    have hne : u ≠ t := by
      rintro rfl
      exact hfound (by rw [huid, husource]; exact hdropped.symm)
    exact ⟨u, (List.mem_erase_of_ne hne).2 hu, huid, husource, hutarget⟩

theorem awaited_step {e : Event} (h : s.Awaited) (hreg : s.Regular) (he : e.IsService) :
    (step rules s e).Awaited := by
  cases e with
  | perform o op => exact perform_induction h fun _ _ hop => h.perform hop
  | fire o t =>
    rw [step]
    split
    · next hmem => exact h.fire hreg hmem
    · exact h
  | simulate => exact he.elim
  | transition => exact he.elim

theorem awaited_run {events : List Event} (h : s.Awaited) (hreg : s.Regular)
    (he : ∀ e ∈ events, e.IsService) : (run rules s events).Awaited := by
  induction events generalizing s with
  | nil => exact h
  | cons e rest ih =>
    rw [List.forall_mem_cons] at he
    exact ih (awaited_step h hreg he.1) (hreg.step he.1) he.2

/-- An orchestrator that has just started has no pipelines. -/
theorem awaited_fresh (welcomeAt lagAt : Timestamp) : (fresh welcomeAt lagAt).Awaited := by
  intro id status target hstatus
  cases hstatus

end Awaited

/-- After every run of operations and timers, in whatever order the timers fire, each pipeline in an
in-between status has a timer pending that leads from this status to its completion. Without
pending timers no pipeline is in such a status. -/
theorem waits_are_timed (rules : Rules) (welcomeAt lagAt : Timestamp) (events : List Event)
    (he : ∀ e ∈ events, e.IsService) :
    let s := run rules (fresh welcomeAt lagAt) events
    (∀ id status target, s.status? id = some status → status.completion? = some target →
      ∃ t ∈ s.timers, t.id = id ∧ t.source = status ∧ t.target = target) ∧
      (s.timers = [] → ∀ id status, s.status? id = some status → status.completion? = none) := by
  intro s
  have hawaited : s.Awaited :=
    awaited_run (awaited_fresh welcomeAt lagAt) (regular_fresh welcomeAt lagAt) he
  refine ⟨hawaited, fun hnone id status hstatus => ?_⟩
  cases hc : status.completion? with
  | none => rfl
  | some target =>
    obtain ⟨t, ht, -⟩ := hawaited id status target hstatus hc
    rw [hnone] at ht
    cases ht

/-- A pipeline to be created. -/
def orders : PipelineConfig where
  id := "a"
  name := "Orders"
  source := .object [("topics", .array [.null])]
  sink := .object []

/-- The occasion at a time of the clock. -/
def after (ms : Nat) : Occasion := ⟨ms, newYear, "fresh", []⟩

/-- A pipeline is terminated before it runs, and the timer of its start fires all the same. -/
def interruptedStart : List Event :=
  [.perform (after 0) (.create orders), .perform (after 400) (.act "a" .terminate),
    .fire (after 1000) ⟨"a", .created, .running, 1000, newYear, none⟩]

/-- The pipeline is still terminating then, and the timer of its termination is there. -/
theorem interruptedStart_awaited :
    let s := run {} (fresh newYear newYear) interruptedStart
    s.status? "a" = some .terminating ∧
      ∃ t ∈ s.timers, t.id = "a" ∧ t.source = .terminating ∧ t.target = .terminated := by
  intro s
  have hstatus : s.status? "a" = some .terminating := by decide
  have hservice : ∀ e ∈ interruptedStart, e.IsService := by
    simp [interruptedStart, Event.IsService]
  exact ⟨hstatus, (waits_are_timed {} newYear newYear interruptedStart hservice).1 "a" .terminating
    .terminated hstatus rfl⟩

end PipelineConsole.Orchestrator
