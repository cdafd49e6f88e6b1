import PipelineConsole.Proofs.Orchestrator.Locality
import PipelineConsole.Scenario.Surroundings

/-!
# Changes of status are announced

A timer that fires carries out its change of status and announces it, or does nothing at all. No
operation announces anything. So what has ever been announced about a pipeline, whatever became of
the notifications since, tells the statuses that timers have put it in, one by one and in order; a
timer that came too late has left no trace.

Notifications come to an end in several ways: they are deleted, they are marked as read, and the
oldest give way to new ones. What an event adds is told by what it leaves where there were no
notifications before it.

## Main definitions

* `Orchestrator.announcement` — the news that a pipeline has reached a status
* `Orchestrator.additions`, `Orchestrator.appended` — the notifications that events add
* `Orchestrator.change?`, `Orchestrator.changes` — the changes of status that timers carry out

## Main results

* `transition_of_edge`, `transition_of_not` — a change is carried out as a whole, or not at all
* `notifications_step`, `additions_eq` — what an event makes of the notifications and adds to them
* `notifications_run` — the notifications after a run that nobody interferes with
* `changes_are_announced` — a run announces what its timers have carried out
-/

namespace PipelineConsole

/-- What an operation does to the notifications that are there. -/
def Operation.editNews : Operation → List Notification → List Notification
  | deleteNotification id, ns => ns.filter (·.id ≠ id)
  | markRead ids, ns =>
    ns.map fun n => if Orchestrator.turnsRead ids n then { n with read := true } else n
  | _, ns => ns

theorem Operation.editNews_nil (op : Operation) : op.editNews [] = [] := by
  cases op <;> rfl

namespace Orchestrator

open Surroundings (moment)

/-- The news that the pipeline of an id has reached a status; nobody has read it yet. -/
def announcement (o : Occasion) (id : String) (status : Status) : Notification where
  id := o.freshId
  pipelineId := some id
  severity := severityOf status
  title := "Pipeline " ++ status.name
  message := "Pipeline " ++ id ++ " is now " ++ status.name
  createdAt := o.time
  read := false

/-- The newest of some notifications and a new one. -/
def keep (ns : List Notification) (n : Notification) : List Notification :=
  (ns ++ [n]).drop ((ns ++ [n]).length - maxNotifications)

/-- What an event does to the notifications that are there. -/
def Event.editNews : Event → List Notification → List Notification
  | perform _ op => op.editNews
  | fire .. | simulate .. | transition .. => id

/-- The occasion of a change of status and the id of the pipeline that it is meant for. -/
def Event.aim? : Event → Option (Occasion × String)
  | fire o t => some (o, t.id)
  | transition o id _ _ => some (o, id)
  | perform .. | simulate .. => none

/-- The notifications that an event adds: those that are there after it if none were before. -/
def additions (rules : Rules) (s : Orchestrator) (e : Event) : List Notification :=
  (step rules { s with notifications := [] } e).notifications

/-- The notifications that are ever added in a run. -/
def appended (rules : Rules) (s : Orchestrator) : List Event → List Notification
  | [] => []
  | e :: rest => additions rules s e ++ appended rules (step rules s e) rest

/-- A pipeline has been put in a status. -/
structure Change where
  occasion : Occasion
  id : String
  status : Status

/-- The change of the status of a pipeline's id between two states, if there is one. -/
def changeBetween? (s s' : Orchestrator) (o : Occasion) (id : String) : Option Change :=
  match s'.status? id with
  | none => none
  | some status => if s.status? id = some status then none else some ⟨o, id, status⟩

/-- The change of status that an event carries out by a timer, or by hand. -/
def change? (rules : Rules) (s : Orchestrator) (e : Event) : Option Change :=
  match e.aim? with
  | none => none
  | some (o, id) => changeBetween? s (step rules s e) o id

/-- The changes of status that are carried out in a run. -/
def changes (rules : Rules) (s : Orchestrator) : List Event → List Change
  | [] => []
  | e :: rest => (change? rules s e).toList ++ changes rules (step rules s e) rest

/-- The announcement of a change. -/
def Change.news (c : Change) : Notification := announcement c.occasion c.id c.status

section Changes

variable {rules : Rules} {s s' : Orchestrator} {o : Occasion} {id : String}
  {source target : Status} {p : Pipeline}

/-! ### One change of status -/

theorem keep_nil (n : Notification) : keep [] n = [n] := by
  have hfew : 1 - maxNotifications = 0 := by decide
  exact congrArg (List.drop · [n]) hfew

theorem not_canBecome_self (status : Status) : ¬status.CanBecome status := by
  cases status <;> decide

/-- A change along an edge, from the status that the pipeline is in, is carried out as a whole. -/
theorem transition_of_edge (hp : s.pipelines.get? id = some p) (hedge : p.status.CanBecome target)
    (o : Occasion) :
    s.transition o id p.status target =
      (true, { s with
        pipelines := s.pipelines.insert id { p with status := target, updatedAt := o.time }
        notifications := keep s.notifications (announcement o id target) }) := by
  have hboth : p.status.CanBecome target ∧ p.status = p.status := ⟨hedge, rfl⟩
  rw [transition, hp]
  dsimp only
  rw [if_pos hboth]
  rfl

/-- Any other change does nothing. -/
theorem transition_of_not (h : ¬(source.CanBecome target ∧ s.status? id = some source))
    (o : Occasion) : s.transition o id source target = (false, s) := by
  rw [transition]
  split
  · rfl
  · next p hp =>
    refine if_neg fun hboth => h ⟨hboth.1, ?_⟩
    rw [status?, hp, Option.map_some, hboth.2]

theorem changeBetween?_self (s : Orchestrator) (o : Occasion) (id : String) :
    changeBetween? s s o id = none := by
  rw [changeBetween?]
  cases s.status? id with
  | none => rfl
  | some status => exact if_pos rfl

/-- A change is seen in the status if and only if it was carried out. -/
theorem changeBetween?_transition (s : Orchestrator) (o : Occasion) (id : String)
    (source target : Status) :
    changeBetween? s (s.transition o id source target).2 o id =
      if (s.transition o id source target).1 = true then some ⟨o, id, target⟩ else none := by
  by_cases h : source.CanBecome target ∧ s.status? id = some source
  · obtain ⟨p, hp, rfl⟩ := Option.map_eq_some_iff.1 h.2
    have hne : p.status ≠ target := fun heq => not_canBecome_self target (heq ▸ h.1)
    rw [transition_of_edge hp h.1, changeBetween?]
    simp [status?, Table.get?_insert, hp, hne]
  · rw [transition_of_not h, changeBetween?_self]
    rfl

/-- Whatever notifications there are, a change that is carried out is announced behind them, and any
other is not announced. -/
theorem notifications_transition (s : Orchestrator) (ns : List Notification) (o : Occasion)
    (id : String) (source target : Status) :
    ({ s with notifications := ns }.transition o id source target).2.notifications =
      ((changeBetween? s (s.transition o id source target).2 o id).toList.map
        Change.news).foldl keep ns := by
  rw [changeBetween?_transition]
  by_cases h : source.CanBecome target ∧ s.status? id = some source
  · obtain ⟨p, hp, rfl⟩ := Option.map_eq_some_iff.1 h.2
    have hp' : { s with notifications := ns }.pipelines.get? id = some p := hp
    rw [transition_of_edge hp h.1, transition_of_edge hp' h.1, if_pos rfl]
    simp only [Option.toList_some, List.map_cons, List.map_nil, List.foldl_cons, List.foldl_nil,
      Change.news]
  · have h' : ¬(source.CanBecome target ∧
        { s with notifications := ns }.status? id = some source) := h
    rw [transition_of_not h, transition_of_not h']
    rfl

/-! ### Operations -/

theorem notifications_of_terminateEach (ids : List String) (s : Orchestrator) :
    (terminateEach rules o ids s).2.notifications = s.notifications := by
  refine terminateEach_induction (motive := (·.notifications = s.notifications))
    (fun t t' id status ht hact => ?_) ids rfl
  obtain ⟨p, -, -, rfl⟩ := act_eq_ok hact
  exact ht

theorem notifications_of_create {config : PipelineConfig}
    (h : create rules o config s = (.ok id, s')) : s'.notifications = s.notifications := by
  obtain ⟨-, -, t, haccept, rfl⟩ := create_steps h
  obtain ⟨-, -, rfl⟩ := accept_eq_ok haccept
  rfl

theorem notifications_emptyQueue (s : Orchestrator) (id : String) :
    (s.emptyQueue id).notifications = s.notifications := by
  unfold emptyQueue
  split <;> rfl

/-- An operation does to the notifications what it is there for, and adds none. -/
theorem notifications_of_perform {op : Operation} {reply : op.Reply}
    (h : perform rules o op s = (.ok reply, s')) :
    s'.notifications = op.editNews s.notifications := by
  cases op with
  | create config => exact notifications_of_create h
  | rename id name =>
    obtain ⟨p, -, rfl⟩ := rename_eq_ok h
    rfl
  | edit id config =>
    obtain ⟨p, -, -, rfl⟩ := edit_eq_ok h
    rfl
  | delete id =>
    obtain ⟨p, -, -, rfl⟩ := delete_eq_ok h
    rfl
  | act id action =>
    obtain ⟨p, -, -, rfl⟩ := act_eq_ok h
    rfl
  | terminateAll =>
    obtain rfl : (s.terminateAll rules o).2 = s' := congrArg Prod.snd h
    exact notifications_of_terminateEach _ s
  | consume id size =>
    obtain ⟨-, n, htake⟩ := consume_eq_ok h
    obtain ⟨-, rfl⟩ := Prod.mk.inj htake
    rfl
  | purge id =>
    obtain rfl := purge_eq_ok h
    exact notifications_emptyQueue s id
  | deleteNotification id =>
    obtain rfl := deleteNotification_eq_ok h
    rfl
  | list | platform | listNotifications | markRead | get | health | deadLetters | checkFilter
  | evaluateTransform | getNotification =>
    obtain rfl := congrArg Prod.snd h
    rfl

/-- A refused operation would not have done anything to the notifications. -/
theorem notifications_of_refused {op : Operation} {f : Fault}
    (h : perform rules o op s = (.error f, s)) : op.editNews s.notifications = s.notifications := by
  cases op with
  | deleteNotification id =>
    rw [perform, deleteNotification_apply] at h
    exact congrArg notifications (Prod.mk.inj h).2
  | markRead ids => cases h
  | _ => rfl

/-! ### Events and runs -/

theorem notifications_step_perform (rules : Rules) (s : Orchestrator) (o : Occasion)
    (op : Operation) :
    (step rules s (.perform o op)).notifications = op.editNews s.notifications := by
  rw [step]
  rcases perform_cases rules o op s with ⟨reply, s', h⟩ | ⟨fault, h⟩
  · rw [h]
    exact notifications_of_perform h
  · rw [h]
    exact (notifications_of_refused h).symm

/-- Whatever notifications there are, an event does to them what it is there for, and announces the
change that it carries out, if it does. -/
theorem notifications_step_with (rules : Rules) (s : Orchestrator) (ns : List Notification)
    (e : Event) :
    (step rules { s with notifications := ns } e).notifications =
      ((change? rules s e).toList.map Change.news).foldl keep (e.editNews ns) := by
  cases e with
  | perform o op => exact notifications_step_perform rules { s with notifications := ns } o op
  | fire o t =>
    rw [change?, step, step]
    dsimp only [Event.aim?]
    by_cases ht : t ∈ s.timers
    · rw [if_pos ht, if_pos ht]
      exact notifications_transition { s with timers := s.timers.erase t } ns o t.id t.source
        t.target
    · rw [if_neg ht, if_neg ht, changeBetween?_self]
      rfl
  | simulate o id source target delay => rfl
  | transition o id source target => exact notifications_transition s ns o id source target

/-- An event adds the announcement of the change that it carries out, if it does. -/
theorem additions_eq (rules : Rules) (s : Orchestrator) (e : Event) :
    additions rules s e = (change? rules s e).toList.map Change.news := by
  have hnone : e.editNews [] = [] := by
    cases e with
    | perform o op => exact op.editNews_nil
    | _ => rfl
  rw [additions, notifications_step_with, hnone]
  cases change? rules s e with
  | none => rfl
  | some c =>
    rw [Option.toList_some, List.map_singleton, List.foldl_cons, List.foldl_nil, keep_nil]

/-- An event leaves what it makes of the notifications that are there, and what it adds; the oldest
give way. -/
theorem notifications_step (rules : Rules) (s : Orchestrator) (e : Event) :
    (step rules s e).notifications =
      (additions rules s e).foldl keep (e.editNews s.notifications) := by
  rw [additions_eq]
  exact notifications_step_with rules s s.notifications e

/-- A run adds the announcements of the changes that are carried out in it. -/
theorem appended_eq (rules : Rules) (s : Orchestrator) (events : List Event) :
    appended rules s events = (changes rules s events).map Change.news := by
  induction events generalizing s with
  | nil => rfl
  | cons e rest ih => rw [appended, changes, additions_eq, ih, List.map_append]

/-- A timer carries out its own change, if any, and tells so. -/
theorem change?_fire (rules : Rules) (s : Orchestrator) (o : Occasion) (t : Timer) :
    change? rules s (.fire o t) =
      if t ∈ s.timers ∧ (s.fire o t).1 = true then some ⟨o, t.id, t.target⟩ else none := by
  rw [change?, step]
  dsimp only [Event.aim?]
  by_cases ht : t ∈ s.timers
  · -- To fire is to change the status once the timer is gone.
    have hfire := changeBetween?_transition { s with timers := s.timers.erase t } o t.id t.source
      t.target
    simp only [ht, if_true, true_and]
    exact hfire
  · simp only [ht, if_false, false_and]
    exact changeBetween?_self s o t.id

/-! ### Runs that nobody interferes with -/

variable {ns new : List Notification}

theorem foldl_keep_of_room (h : ns.length + new.length ≤ maxNotifications) :
    new.foldl keep ns = ns ++ new := by
  induction new generalizing ns with
  | nil => exact (List.append_nil ns).symm
  | cons n new ih =>
    rw [List.length_cons] at h
    have hone : keep ns n = ns ++ [n] := by
      have hroom : (ns ++ [n]).length - maxNotifications = 0 := by
        rw [List.length_append, List.length_singleton]
        omega
      rw [keep, hroom, List.drop_zero]
    rw [List.foldl_cons, hone, ih (by rw [List.length_append, List.length_singleton]; omega),
      List.append_assoc, List.singleton_append]

/-- As long as there is room, and nobody deletes notifications or marks them as read, all that has
been added is there. -/
theorem notifications_run {events : List Event}
    (hedit : ∀ e ∈ events, ∀ ns, e.editNews ns = ns)
    (hroom : s.notifications.length + (appended rules s events).length ≤ maxNotifications) :
    (run rules s events).notifications = s.notifications ++ appended rules s events := by
  induction events generalizing s with
  | nil => exact (List.append_nil s.notifications).symm
  | cons e rest ih =>
    obtain ⟨he, hrest⟩ := List.forall_mem_cons.1 hedit
    rw [appended, List.length_append] at hroom
    have hstep : (step rules s e).notifications = s.notifications ++ additions rules s e := by
      rw [notifications_step, he, foldl_keep_of_room (by omega)]
    have hroom' : (step rules s e).notifications.length +
        (appended rules (step rules s e) rest).length ≤ maxNotifications := by
      rw [hstep, List.length_append]
      omega
    rw [run_cons, ih hrest hroom', hstep, appended, List.append_assoc]

end Changes

/-- A change of status is carried out as a whole or not at all. If it is along an edge of the graph,
from the status that the pipeline is in, then only this status and the time of the last change are
set, and one unread notification is added behind the others, the oldest of which may have to give
way; otherwise nothing changes. So in every run, from any state and in whatever order timers fire,
what is ever added about an id are the announcements of the changes that timers carried out on its
pipeline, in their order. -/
theorem changes_are_announced (rules : Rules) (start : Orchestrator) (events : List Event) :
    (∀ (s : Orchestrator) o id p target, s.pipelines.get? id = some p →
      p.status.CanBecome target →
      s.transition o id p.status target =
        (true, { s with
          pipelines := s.pipelines.insert id { p with status := target, updatedAt := o.time }
          notifications := keep s.notifications (announcement o id target) })) ∧
      (∀ (s : Orchestrator) o id source target,
        ¬(source.CanBecome target ∧ s.status? id = some source) →
        s.transition o id source target = (false, s)) ∧
      (∀ s e, (step rules s e).notifications =
        (additions rules s e).foldl keep (e.editNews s.notifications)) ∧
      (∀ s o t, change? rules s (.fire o t) =
        if t ∈ s.timers ∧ (s.fire o t).1 = true then some ⟨o, t.id, t.target⟩ else none) ∧
      (∀ n ∈ appended rules start events, ∃ id, n.pipelineId = some id) ∧
      ∀ id, (appended rules start events).filter (·.pipelineId = some id) =
        ((changes rules start events).filter (·.id = id)).map fun c =>
          announcement c.occasion id c.status := by
  refine ⟨fun s o id p target hp hedge => transition_of_edge hp hedge o,
    fun s o id source target h => transition_of_not h o, notifications_step rules,
    change?_fire rules, ?_, fun id => ?_⟩
  · intro n hn
    rw [appended_eq] at hn
    obtain ⟨c, -, rfl⟩ := List.mem_map.1 hn
    exact ⟨c.id, rfl⟩
  · have hid : (fun n : Notification => decide (n.pipelineId = some id)) ∘ Change.news =
        fun c => decide (c.id = id) := by
      funext c
      simp [Change.news, announcement]
    rw [appended_eq, List.filter_map, hid]
    refine List.map_congr_left fun c hc => ?_
    have hc : c.id = id := of_decide_eq_true (List.mem_filter.1 hc).2
    rw [Change.news, hc]

/-- A pipeline is terminated before it runs, so that its first timer comes too late. -/
def overtakenRun : List Event :=
  let config : PipelineConfig :=
    { id := "a", name := "A", source := .object [("topics", .array [.null])], sink := .object [] }
  [.perform ⟨0, moment 0, "-", []⟩ (.create config),
    .perform ⟨500, moment 1, "-", []⟩ (.act "a" .terminate),
    .fire ⟨1000, moment 2, "-", []⟩ ⟨"a", .created, .running, 1000, moment 0, none⟩,
    .fire ⟨2500, moment 3, "-", []⟩ ⟨"a", .terminating, .terminated, 2500, moment 1, none⟩]

example : (appended {} {} overtakenRun).map Notification.message =
    ["Pipeline a is now Terminated"] := by
  decide +kernel

end Orchestrator

end PipelineConsole
