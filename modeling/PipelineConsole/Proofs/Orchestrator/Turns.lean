import PipelineConsole.Proofs.Orchestrator.Service

/-!
# Statuses and timers go together

An operation that puts a pipeline into an in-between status also sets the timer that completes it. A
timer that fires goes, whether or not its change is carried out. What one event does to the status
of an id and to the timers is said here for both at once.

## Main definitions

* `Delays.ofStatus` — how long an in-between status lasts
* `Orchestrator.completionTimer` — the timer that completes an in-between status
* `Orchestrator.Turn` — what an operation does to the status of an id, and the timers that it sets

## Main results

* `turn_of_perform` — every operation does one of these things to every id
* `fire_carries`, `fire_drops` — what a timer that fires does
-/

namespace PipelineConsole

/-- How long an in-between status lasts until it is completed. -/
def Delays.ofStatus (d : Delays) : Status → Nat
  | .created => d.start
  | .pausing => d.pause
  | .resuming => d.resume
  | .stopping => d.stop
  | .terminating => d.terminate
  | .running | .paused | .stopped | .terminated | .failed => 0

/-- An action takes as long as its in-between status lasts. -/
theorem Delays.ofStatus_optimistic (d : Delays) (a : Action) :
    d.ofStatus a.optimistic = d.ofAction a := by
  cases a <;> rfl

/-- An action changes the status. -/
theorem Action.optimistic_ne {a : Action} {status : Status} (h : a.isAllowed status = true) :
    a.optimistic ≠ status := by
  revert h
  cases a <;> cases status <;> decide

/-- A pipeline is not deleted while it waits for a completion. -/
theorem Status.completion?_of_canDelete {status : Status} (h : status.canDelete = true) :
    status.completion? = none := by
  revert h
  cases status <;> decide

/-- A completion follows an edge of the graph. -/
theorem Status.canBecome_completion {source target : Status}
    (h : source.completion? = some target) : source.CanBecome target := by
  revert h
  cases source <;> cases target <;> decide

/-- A completion leads to a status that lasts. -/
theorem Status.completion?_completion {source target : Status}
    (h : source.completion? = some target) : target.completion? = none := by
  revert h
  cases source <;> cases target <;> decide

namespace Orchestrator

/-- The timer that completes an in-between status, as it is set when the status is entered. -/
def completionTimer (d : Delays) (o : Occasion) (id : String) (source target : Status) : Timer :=
  ⟨id, source, target, o.elapsed + d.ofStatus source, o.time, none⟩

/-- What one operation can do to the status of an id, and the timers of the id that it sets. -/
inductive Turn (d : Delays) (o : Occasion) (id : String) :
    Option Status → Option Status → List Timer → Prop where
  | kept (status : Option Status) : Turn d o id status status []
  | created : Turn d o id none (some .created) [completionTimer d o id .created .running]
  | acted (status : Status) (a : Action) (h : a.isAllowed status = true) :
      Turn d o id (some status) (some a.optimistic) [completionTimer d o id a.optimistic a.final]
  | deleted (status : Status) (h : status.canDelete = true) : Turn d o id (some status) none []

section Turns

variable {s s' : Orchestrator} {rules : Rules} {o : Occasion} {id : String}

/-- A pipeline that is terminating is left alone by every operation. -/
theorem Turn.of_terminating {d : Delays} {after : Option Status} {set : List Timer}
    (h : Turn d o id (some .terminating) after set) : after = some .terminating ∧ set = [] := by
  cases h with
  | kept => exact ⟨rfl, rfl⟩
  | acted _ a h =>
    have hrefused : a.isAllowed .terminating = false := by cases a <;> rfl
    exact absurd h (by rw [hrefused]; exact Bool.false_ne_true)
  | deleted _ h => exact absurd h (by decide)

/-- An operation that leaves a status as it is sets no timer for it. -/
theorem Turn.eq_nil_of_same {d : Delays} {status after : Option Status} {set : List Timer}
    (h : Turn d o id status after set) (hsame : after = status) : set = [] := by
  cases h with
  | kept => rfl
  | created => cases hsame
  | acted _ a h => exact absurd (Option.some.inj hsame) (Action.optimistic_ne h)
  | deleted => cases hsame

theorem status?_of_pipelines (h : s'.pipelines = s.pipelines) : s'.status? id = s.status? id := by
  rw [status?, status?, h]

/-- Replacing one pipeline matters to the status of its id only. -/
theorem status?_of_insert {key : String} {p : Pipeline}
    (h : s'.pipelines = s.pipelines.insert key p) :
    s'.status? id = if id = key then some p.status else s.status? id := by
  rw [status?, h, Table.get?_insert]
  split <;> rfl

/-- An operation that sets no timer and changes no status leaves every id as it was. -/
theorem turn_of_status (hstatus : ∀ id, s'.status? id = s.status? id)
    (htimers : s'.timers = s.timers) :
    ∃ set, s'.timers = s.timers ++ set ∧
      ∀ id, Turn rules.delays o id (s.status? id) (s'.status? id) (set.filter (·.id = id)) := by
  refine ⟨[], by rw [htimers, List.append_nil], fun id => ?_⟩
  rw [hstatus id]
  exact .kept _

/-- An operation on one id sets a timer for it, and does nothing to the others. -/
theorem turn_of_insert {key : String} {p : Pipeline} (source target : Status)
    (hinsert : s'.pipelines = s.pipelines.insert key p)
    (htimers : s'.timers = s.timers ++ [completionTimer rules.delays o key source target])
    (hturn : Turn rules.delays o key (s.status? key) (some p.status)
      [completionTimer rules.delays o key source target]) :
    ∃ set, s'.timers = s.timers ++ set ∧
      ∀ id, Turn rules.delays o id (s.status? id) (s'.status? id) (set.filter (·.id = id)) := by
  refine ⟨_, htimers, fun id => ?_⟩
  rw [status?_of_insert hinsert]
  by_cases h : id = key
  · subst h
    simpa [completionTimer] using hturn
  · have hother : ¬ key = id := fun heq => h heq.symm
    simpa [completionTimer, h, hother] using Turn.kept (s.status? id)

theorem turn_of_act {key : String} {action : Action} {status : Status}
    (h : act rules o key action s = (.ok status, s')) :
    ∃ set, s'.timers = s.timers ++ set ∧
      ∀ id, Turn rules.delays o id (s.status? id) (s'.status? id) (set.filter (·.id = id)) := by
  obtain ⟨p, hp, hallowed, rfl⟩ := act_eq_ok h
  have hstatus : s.status? key = some p.status := by rw [status?, hp]; rfl
  refine turn_of_insert action.optimistic action.final (pipelines_put ..) ?_ ?_
  · rw [timers_schedule, timers_put, completionTimer, Delays.ofStatus_optimistic]
  · rw [hstatus]
    exact .acted _ _ hallowed

/-- Terminating many pipelines one after the other is one turn for each of them. -/
theorem turn_of_terminateEach (ids : List String) :
    ∃ set, (terminateEach rules o ids s).2.timers = s.timers ++ set ∧
      ∀ id, Turn rules.delays o id (s.status? id) ((terminateEach rules o ids s).2.status? id)
        (set.filter (·.id = id)) := by
  induction ids generalizing s with
  | nil => exact turn_of_status (fun _ => rfl) rfl
  | cons head rest ih =>
    rw [terminateEach]
    split
    · next status s' hact =>
      obtain ⟨first, hfirst, hturn⟩ := turn_of_act hact
      obtain ⟨more, hmore, hrest⟩ := ih (s := s')
      obtain ⟨p, hp, -, hafter⟩ := act_eq_ok hact
      refine ⟨first ++ more, by rw [hmore, hfirst, List.append_assoc], fun id => ?_⟩
      rw [List.filter_append]
      have hone := hturn id
      have hnext := hrest id
      have hbetween : s'.status? id = if id = head then some .terminating else s.status? id := by
        have hinsert : s'.pipelines = s.pipelines.insert head
            { p with status := .terminating, updatedAt := o.time } := by rw [hafter]; rfl
        exact status?_of_insert hinsert
      by_cases h : id = head
      · rw [if_pos h] at hbetween
        rw [hbetween] at hone hnext
        obtain ⟨hstatus, hset⟩ := hnext.of_terminating
        rw [hstatus, hset, List.append_nil]
        exact hone
      · rw [if_neg h] at hbetween
        rw [hbetween] at hone hnext
        rw [hone.eq_nil_of_same rfl, List.nil_append]
        exact hnext
    · next hact => exact atomic_act rules o head .terminate _ _ _ hact ▸ ih

/-- Replacing a pipeline by one of its own status changes no status. -/
theorem status?_put {key : String} {p q : Pipeline} (hp : s.pipelines.get? key = some p)
    (hstatus : q.status = p.status) : (s.put key q).status? id = s.status? id := by
  rw [status?_of_insert (pipelines_put ..)]
  split
  · next heq => rw [heq, status?, hp, hstatus]; rfl
  · rfl

/-- Whatever an operation does, every id has a turn of one kind or another. -/
theorem turn_of_perform {op : Operation} {reply : op.Reply}
    (hop : perform rules o op s = (.ok reply, s')) :
    ∃ set, s'.timers = s.timers ++ set ∧
      ∀ id, Turn rules.delays o id (s.status? id) (s'.status? id) (set.filter (·.id = id)) := by
  cases op with
  | create config =>
    obtain ⟨hfree, -, hinsert, htimers⟩ := create_eq_ok hop
    refine turn_of_insert .created .running hinsert htimers ?_
    rw [status?, hfree]
    exact .created
  | rename key name =>
    obtain ⟨p, hp, rfl⟩ := rename_eq_ok hop
    exact turn_of_status (fun _ => status?_put hp rfl) (timers_put ..)
  | edit key config =>
    obtain ⟨p, hp, -, rfl⟩ := edit_eq_ok hop
    exact turn_of_status (fun _ => status?_put hp rfl) (timers_put ..)
  | delete key =>
    obtain ⟨p, hp, hdelete, rfl⟩ := delete_eq_ok hop
    refine ⟨[], by simp, fun id => ?_⟩
    rw [status?, status?, pipelines_dropQueue, Table.get?_erase]
    split
    · next heq => rw [heq, hp]; exact .deleted _ hdelete
    · exact .kept _
  | act key action => exact turn_of_act hop
  | terminateAll =>
    obtain rfl : (s.terminateAll rules o).2 = s' := congrArg Prod.snd hop
    exact turn_of_terminateEach _
  | _ =>
    obtain ⟨hpipelines, htimers⟩ := perform_of_not_drivesPipelines rfl hop
    exact turn_of_status (fun _ => status?_of_pipelines hpipelines) htimers

/-- A timer that finds its pipeline in the status in which its change starts carries it out. -/
theorem fire_carries {t : Timer} (hstatus : s.status? t.id = some t.source)
    (hedge : t.source.CanBecome t.target) :
    (s.fire o t).1 = true ∧
      ∀ id, (s.fire o t).2.status? id = if id = t.id then some t.target else s.status? id := by
  obtain ⟨p, hp, hsource⟩ := Option.map_eq_some_iff.1 hstatus
  have hdone : (s.fire o t).1 = true := by simp [fire, transition, hp, hedge, hsource]
  refine ⟨hdone, fun id => ?_⟩
  rcases transition_eq { s with timers := s.timers.erase t } o t.id t.source t.target with
    ⟨hdropped, -⟩ | ⟨q, -, -, -, -, -, hinsert⟩
  · rw [fire, hdropped] at hdone
    cases hdone
  · exact status?_of_insert hinsert

/-- A timer that finds its pipeline in another status, or gone, is dropped. -/
theorem fire_drops {t : Timer} (hstatus : s.status? t.id ≠ some t.source) :
    (s.fire o t).1 = false ∧ ∀ id, (s.fire o t).2.status? id = s.status? id := by
  rcases transition_eq { s with timers := s.timers.erase t } o t.id t.source t.target with
    ⟨hdropped, hsame⟩ | ⟨p, hp, -, hsource, -, -, -⟩
  · refine ⟨hdropped, fun id => ?_⟩
    rw [fire, hsame]
    rfl
  · refine absurd ?_ hstatus
    have hp : s.pipelines.get? t.id = some p := hp
    rw [status?, hp, ← hsource]
    rfl

/-- A timer does nothing to the other ids. -/
theorem status?_fire_of_ne {t : Timer} {id : String} (h : id ≠ t.id) :
    (s.fire o t).2.status? id = s.status? id := by
  rcases transition_eq { s with timers := s.timers.erase t } o t.id t.source t.target with
    ⟨-, hsame⟩ | ⟨p, -, -, -, -, -, hinsert⟩
  · rw [fire, hsame]
    rfl
  · rw [fire, status?_of_insert hinsert, if_neg h]
    rfl

end Turns

end Orchestrator

end PipelineConsole
