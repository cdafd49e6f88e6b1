import PipelineConsole.Orchestrator.Transition
import PipelineConsole.Proofs.Except
import PipelineConsole.Proofs.Orchestrator.Handlers

/-!
# Runs of the orchestrator

A run is a list of events: operations, whether they are refused or not, timers that fire, and
changes of status that are asked for past the operations. Timers may fire in any order, and at any
time after they were set.

What an event can do to the pipeline of an id is said once, by `Fate`; what a run does to a pipeline
follows from it.

## Main definitions

* `Orchestrator.Event`, `Orchestrator.step`, `Orchestrator.run` — events and runs
* `Orchestrator.Fate` — what one event can do to the pipeline of an id

## Main results

* `fate_of_step` — every event does one of these things to every id
-/

namespace PipelineConsole.Orchestrator

/-- What can happen to an orchestrator. -/
inductive Event where
  | perform (o : Occasion) (op : Operation)
  | fire (o : Occasion) (t : Timer)
  /-- A timer is set by hand, for any change of status. -/
  | simulate (o : Occasion) (id : String) (source target : Status) (delay : Nat)
  /-- A change of status is asked for by hand. -/
  | transition (o : Occasion) (id : String) (source target : Status)

/-- The state after an event. A timer that is not set does not fire. -/
def step (rules : Rules) (s : Orchestrator) : Event → Orchestrator
  | .perform o op => (perform rules o op s).2
  | .fire o t => if t ∈ s.timers then (s.fire o t).2 else s
  | .simulate o id source target delay => s.schedule o id source target delay
  | .transition o id source target => (s.transition o id source target).2

/-- The state after a list of events. -/
def run (rules : Rules) (s : Orchestrator) (events : List Event) : Orchestrator :=
  events.foldl (step rules) s

section Run

variable {rules : Rules} {s : Orchestrator} {e : Event} {events more : List Event}

@[simp] theorem run_nil : run rules s [] = s := rfl

@[simp] theorem run_cons : run rules s (e :: events) = run rules (step rules s e) events := rfl

@[simp] theorem run_append :
    run rules s (events ++ more) = run rules (run rules s events) more :=
  List.foldl_append

end Run

/-! ### The parts of a state that a section leaves alone -/

section Frame

variable (s : Orchestrator) (o : Occasion) (id title message : String)

@[simp] theorem pipelines_schedule (source target : Status) (delay : Nat) :
    (s.schedule o id source target delay).pipelines = s.pipelines := rfl

@[simp] theorem timers_schedule (source target : Status) (delay : Nat) :
    (s.schedule o id source target delay).timers =
      s.timers ++ [⟨id, source, target, o.elapsed + delay, o.time, none⟩] := rfl

@[simp] theorem pipelines_seedQueue : (s.seedQueue o id).pipelines = s.pipelines := rfl

@[simp] theorem timers_seedQueue : (s.seedQueue o id).timers = s.timers := rfl

@[simp] theorem pipelines_dropQueue : (s.dropQueue id).pipelines = s.pipelines := rfl

@[simp] theorem timers_dropQueue : (s.dropQueue id).timers = s.timers := rfl

@[simp] theorem pipelines_put (p : Pipeline) :
    (s.put id p).pipelines = s.pipelines.insert id p := rfl

@[simp] theorem timers_put (p : Pipeline) : (s.put id p).timers = s.timers := rfl

@[simp] theorem pipelines_takeBatch (size : Nat) :
    (s.takeBatch o id size).2.pipelines = s.pipelines := rfl

@[simp] theorem timers_takeBatch (size : Nat) :
    (s.takeBatch o id size).2.timers = s.timers := rfl

@[simp] theorem pipelines_emptyQueue : (s.emptyQueue id).pipelines = s.pipelines := by
  unfold emptyQueue
  split <;> rfl

@[simp] theorem timers_emptyQueue : (s.emptyQueue id).timers = s.timers := by
  unfold emptyQueue
  split <;> rfl

@[simp] theorem pipelines_notify (about : Option String) (severity : Severity) :
    (s.notify o about severity title message).pipelines = s.pipelines := by
  simp only [notify]

@[simp] theorem timers_notify (about : Option String) (severity : Severity) :
    (s.notify o about severity title message).timers = s.timers := by
  simp only [notify]

end Frame

/-! ### What the operations on pipelines do -/

section Operations

variable {s s' : Orchestrator} {rules : Rules} {o : Occasion} {id name : String} {p : Pipeline}
  {config : PipelineConfig} {action : Action} {status : Status}

theorem get_eq_ok : s.get id = .ok p ↔ s.pipelines.get? id = some p := by
  unfold get
  cases s.pipelines.get? id <;> simp

/-- Nothing is active when no active pipeline is found, in whatever order they are looked at. -/
theorem active?_eq_none_iff :
    s.active? o = none ↔ ∀ id p, s.pipelines.get? id = some p → p.status.isActive = false := by
  simp only [active?, List.find?_eq_none, (s.pipelines.valuesFrom_perm o.order).mem_iff,
    Table.mem_values_iff, Bool.not_eq_true]
  exact ⟨fun h id p hp => h p ⟨id, hp⟩, fun h p ⟨id, hp⟩ => h id p hp⟩

theorem ensureRoom_eq_ok {u : Unit} :
    s.ensureRoom rules o id = .ok u ↔
      s.pipelines.get? id = none ∧ (rules.singleActive = true → s.active? o = none) := by
  unfold ensureRoom
  by_cases htaken : s.pipelines.contains id = true
  · rw [if_pos htaken]
    refine iff_of_false nofun fun h => ?_
    simp [Table.contains, h.1] at htaken
  · rw [if_neg htaken]
    have hfree : s.pipelines.get? id = none := by simpa [Table.contains] using htaken
    cases rules.singleActive with
    | false => simp [hfree]
    | true => cases s.active? o <;> simp [hfree]

theorem accept_eq_ok {u : Unit} (h : accept rules o config s = (.ok u, s')) :
    s.pipelines.get? config.id = none ∧ (rules.singleActive = true → s.active? o = none) ∧
      s' = s.put config.id (.ofConfig config .created o.time) := by
  obtain ⟨_, hroom, h⟩ := Handler.look_bind_eq_ok.1 h
  obtain ⟨hfree, hactive⟩ := ensureRoom_eq_ok.1 hroom
  exact ⟨hfree, hactive, (Handler.update_eq_ok.1 h).symm⟩

/-- A new pipeline has been accepted, has got its queue, and waits to run. -/
theorem create_steps (h : create rules o config s = (.ok id, s')) :
    config.check = .ok () ∧
      id = (if Text.isBlankText config.id then o.freshId else config.id) ∧
      ∃ t, accept rules o { config with id } s = (.ok (), t) ∧
        s' = (t.seedQueue o id).schedule o id .created .running rules.delays.start := by
  obtain ⟨_, hcheck, h⟩ := Handler.look_bind_eq_ok.1 h
  obtain ⟨_, t, haccept, h⟩ := Handler.bind_eq_ok.1 h
  rw [Handler.update_bind_eq_ok, Handler.update_bind_eq_ok, Handler.pure_eq_ok] at h
  obtain ⟨rfl, rfl⟩ := h
  exact ⟨mapError_eq_ok.1 hcheck, rfl, t, haccept, rfl⟩

theorem create_eq_ok (h : create rules o config s = (.ok id, s')) :
    s.pipelines.get? id = none ∧ (rules.singleActive = true → s.active? o = none) ∧
      s'.pipelines = s.pipelines.insert id (.ofConfig { config with id } .created o.time) ∧
      s'.timers =
        s.timers ++ [⟨id, .created, .running, o.elapsed + rules.delays.start, o.time, none⟩] := by
  obtain ⟨-, -, t, haccept, rfl⟩ := create_steps h
  obtain ⟨hfree, hactive, rfl⟩ := accept_eq_ok haccept
  exact ⟨hfree, hactive, rfl, rfl⟩

theorem create_of_ensureRoom (hcheck : config.check = .ok ())
    (hid : Text.isBlankText config.id = false) (hroom : s.ensureRoom rules o config.id = .ok ()) :
    create rules o config s =
      (.ok config.id, ((s.put config.id (.ofConfig config .created o.time)).seedQueue o
        config.id).schedule o config.id .created .running rules.delays.start) := by
  have haccept : accept rules o config s =
      (.ok (), s.put config.id (.ofConfig config .created o.time)) := by
    rw [accept, Handler.bind_apply, Handler.look_apply, hroom]
    rfl
  unfold create
  rw [hcheck, hid]
  show (accept rules o config >>= _) s = _
  rw [Handler.bind_apply, haccept]
  rfl

theorem rename_eq_ok {u : Unit} (h : rename o id name s = (.ok u, s')) :
    ∃ p, s.pipelines.get? id = some p ∧ s' = s.put id { p with name, updatedAt := o.time } := by
  obtain ⟨-, h⟩ := Handler.ensure_bind_eq_ok.1 h
  obtain ⟨p, hp, h⟩ := Handler.look_bind_eq_ok.1 h
  exact ⟨p, get_eq_ok.1 hp, (Handler.update_eq_ok.1 h).symm⟩

theorem edit_eq_ok {u : Unit} (h : edit o id config s = (.ok u, s')) :
    ∃ p, s.pipelines.get? id = some p ∧ p.status.canEdit = true ∧
      s' = s.put id (p.applyConfig config o.time) := by
  obtain ⟨_, -, h⟩ := Handler.look_bind_eq_ok.1 h
  obtain ⟨p, hp, h⟩ := Handler.look_bind_eq_ok.1 h
  obtain ⟨hedit, h⟩ := Handler.ensure_bind_eq_ok.1 h
  exact ⟨p, get_eq_ok.1 hp, hedit, (Handler.update_eq_ok.1 h).symm⟩

theorem withdraw_eq_ok {u : Unit} (h : withdraw id s = (.ok u, s')) :
    ∃ p, s.pipelines.get? id = some p ∧ p.status.canDelete = true ∧
      s' = { s with pipelines := s.pipelines.erase id } := by
  obtain ⟨p, hp, h⟩ := Handler.look_bind_eq_ok.1 h
  obtain ⟨hdelete, h⟩ := Handler.ensure_bind_eq_ok.1 h
  exact ⟨p, get_eq_ok.1 hp, hdelete, (Handler.update_eq_ok.1 h).symm⟩

theorem delete_eq_ok {u : Unit} (h : delete id s = (.ok u, s')) :
    ∃ p, s.pipelines.get? id = some p ∧ p.status.canDelete = true ∧
      s' = { s with pipelines := s.pipelines.erase id }.dropQueue id := by
  obtain ⟨_, _, hw, h⟩ := Handler.bind_eq_ok.1 h
  obtain ⟨p, hp, hdelete, rfl⟩ := withdraw_eq_ok hw
  exact ⟨p, hp, hdelete, (Handler.update_eq_ok.1 h).symm⟩

theorem act_eq_ok (h : act rules o id action s = (.ok status, s')) :
    ∃ p, s.pipelines.get? id = some p ∧ action.isAllowed p.status = true ∧
      s' = (s.put id { p with status := action.optimistic, updatedAt := o.time }).schedule o id
        action.optimistic action.final (rules.delays.ofAction action) := by
  obtain ⟨p, hp, h⟩ := Handler.look_bind_eq_ok.1 h
  obtain ⟨hallowed, h⟩ := Handler.ensure_bind_eq_ok.1 h
  rw [Handler.update_bind_eq_ok, Handler.update_bind_eq_ok, Handler.pure_eq_ok] at h
  exact ⟨p, get_eq_ok.1 hp, hallowed, h.2.symm⟩

theorem act_of_allowed (hp : s.pipelines.get? id = some p) (ha : action.isAllowed p.status = true) :
    act rules o id action s =
      (.ok action.optimistic,
        (s.put id { p with status := action.optimistic, updatedAt := o.time }).schedule o id
          action.optimistic action.final (rules.delays.ofAction action)) := by
  have hget := get_eq_ok.2 hp
  simp only [act, Handler.bind_apply, Handler.look_apply, hget, Handler.ensure, ha, if_true,
    Handler.update_apply, Handler.pure_apply]

theorem ensureExists_eq_ok {u : Unit} :
    s.ensureExists id = .ok u ↔ (s.pipelines.get? id).isSome = true := by
  unfold ensureExists get
  cases s.pipelines.get? id with
  | none => exact iff_of_false nofun nofun
  | some p => exact iff_of_true rfl rfl

/-- A batch is taken from the queue of a pipeline. -/
theorem consume_eq_ok {size : Option UInt64} {batch : List DeadLetter.Message}
    (h : consume o id size s = (.ok batch, s')) :
    (s.pipelines.get? id).isSome = true ∧ ∃ n, s.takeBatch o id n = (batch, s') := by
  obtain ⟨n, -, h⟩ := Handler.look_bind_eq_ok.1 h
  obtain ⟨_, hthere, h⟩ := Handler.look_bind_eq_ok.1 h
  exact ⟨ensureExists_eq_ok.1 hthere, n, Handler.commit_eq_ok.1 h⟩

theorem purge_eq_ok {u : Unit} (h : purge id s = (.ok u, s')) : s' = s.emptyQueue id := by
  obtain ⟨_, -, h⟩ := Handler.look_bind_eq_ok.1 h
  exact (Handler.update_eq_ok.1 h).symm

theorem deleteNotification_eq_ok {u : Unit} (h : deleteNotification id s = (.ok u, s')) :
    s' = { s with notifications := s.notifications.filter (·.id ≠ id) } := by
  rw [deleteNotification_apply] at h
  exact (congrArg Prod.snd h).symm

/-- The operations that change pipelines or set timers; the others read, or concern dead letters and
notifications. -/
def drivesPipelines : Operation → Bool
  | .create _ | .rename .. | .edit .. | .delete _ | .act .. | .terminateAll => true
  | _ => false

theorem perform_of_not_drivesPipelines {op : Operation} {reply : op.Reply}
    (hop : drivesPipelines op = false) (h : perform rules o op s = (.ok reply, s')) :
    s'.pipelines = s.pipelines ∧ s'.timers = s.timers := by
  cases op with
  | create | rename | edit | delete | act | terminateAll => cases hop
  | consume id size =>
    obtain ⟨-, n, htake⟩ := consume_eq_ok h
    obtain rfl := congrArg Prod.snd htake
    exact ⟨pipelines_takeBatch .., timers_takeBatch ..⟩
  | purge id =>
    obtain rfl := purge_eq_ok h
    exact ⟨pipelines_emptyQueue .., timers_emptyQueue ..⟩
  | deleteNotification id =>
    obtain rfl := deleteNotification_eq_ok h
    exact ⟨rfl, rfl⟩
  | list | platform | listNotifications | markRead | get | health | deadLetters | checkFilter
  | evaluateTransform | getNotification =>
    obtain rfl := congrArg Prod.snd h
    exact ⟨rfl, rfl⟩

theorem transition_eq (s : Orchestrator) (o : Occasion) (id : String) (source target : Status) :
    ((s.transition o id source target).1 = false ∧ (s.transition o id source target).2 = s) ∨
      ∃ p, s.pipelines.get? id = some p ∧ source.CanBecome target ∧ p.status = source ∧
        (s.transition o id source target).1 = true ∧
        (s.transition o id source target).2.timers = s.timers ∧
        (s.transition o id source target).2.pipelines =
          s.pipelines.insert id { p with status := target, updatedAt := o.time } := by
  unfold transition
  split
  · exact .inl ⟨rfl, rfl⟩
  · next p hp =>
    split
    · next h => exact .inr ⟨p, hp, h.1, h.2, rfl, timers_notify .., pipelines_notify ..⟩
    · exact .inl ⟨rfl, rfl⟩

end Operations

/-! ### What an event can do to the pipeline of an id -/

/-- What one event can do to the pipeline of an id: the pipelines before and after it, if there are
any. -/
inductive Fate : Option Pipeline → Option Pipeline → Prop where
  | kept (p : Option Pipeline) : Fate p p
  | created (c : PipelineConfig) (now : Timestamp) : Fate none (some (.ofConfig c .created now))
  | renamed (p : Pipeline) (name : String) (now : Timestamp) :
      Fate (some p) (some { p with name, updatedAt := now })
  | edited (p : Pipeline) (c : PipelineConfig) (now : Timestamp) (h : p.status.canEdit = true) :
      Fate (some p) (some (p.applyConfig c now))
  | deleted (p : Pipeline) (h : p.status.canDelete = true) : Fate (some p) none
  | acted (p : Pipeline) (a : Action) (now : Timestamp) (h : a.isAllowed p.status = true) :
      Fate (some p) (some { p with status := a.optimistic, updatedAt := now })
  | moved (p : Pipeline) (target : Status) (now : Timestamp) (h : p.status.CanBecome target) :
      Fate (some p) (some { p with status := target, updatedAt := now })

namespace Fate

variable {t : Table Pipeline} {id : String} {p : Pipeline}

/-- A new value of one id is a fate of that id, and leaves the others alone. -/
theorem insert (h : Fate (t.get? id) (some p)) (other : String) :
    Fate (t.get? other) ((t.insert id p).get? other) := by
  rw [Table.get?_insert]
  split
  · next heq => exact heq ▸ h
  · exact .kept _

/-- So is the removal of an id. -/
theorem erase (h : Fate (t.get? id) none) (other : String) :
    Fate (t.get? other) ((t.erase id).get? other) := by
  rw [Table.get?_erase]
  split
  · next heq => exact heq ▸ h
  · exact .kept _

end Fate

section Fates

variable {s s' : Orchestrator} {rules : Rules} {o : Occasion} {id : String} {status : Status}
  {action : Action}

theorem fate_of_act (h : act rules o id action s = (.ok status, s')) (other : String) :
    Fate (s.pipelines.get? other) (s'.pipelines.get? other) := by
  obtain ⟨p, hp, hallowed, rfl⟩ := act_eq_ok h
  exact Fate.insert (hp ▸ .acted p action o.time hallowed) other

/-- What every single termination keeps is kept when many pipelines are terminated. -/
theorem terminateEach_induction {motive : Orchestrator → Prop}
    (step : ∀ s s' id status, motive s → act rules o id .terminate s = (.ok status, s') → motive s')
    (ids : List String) (h : motive s) : motive (terminateEach rules o ids s).2 := by
  induction ids generalizing s with
  | nil => exact h
  | cons id rest ih =>
    rw [terminateEach]
    split
    · next hact => exact ih (step _ _ _ _ h hact)
    · next hact => exact ih (atomic_act rules o id .terminate _ _ _ hact ▸ h)

/-- A pipeline that is terminating is not terminated once more. -/
theorem get?_terminateEach_of_terminating (rules : Rules) (o : Occasion) {p : Pipeline}
    (hp : s.pipelines.get? id = some p) (hstatus : p.status = .terminating) (ids : List String) :
    (terminateEach rules o ids s).2.pipelines.get? id = some p := by
  refine terminateEach_induction (motive := (·.pipelines.get? id = some p))
    (fun t t' head status hkept hact => ?_) ids hp
  obtain ⟨q, hq, hallowed, rfl⟩ := act_eq_ok hact
  rw [pipelines_schedule, pipelines_put, Table.get?_insert, if_neg]
  · exact hkept
  · rintro rfl
    obtain rfl : q = p := Option.some.inj (hq.symm.trans hkept)
    simp [Action.isAllowed, Status.canTerminate, hstatus] at hallowed

/-- Terminating many pipelines one after the other does at most one thing to each. -/
theorem fate_of_terminateEach (ids : List String) (s : Orchestrator) (other : String) :
    Fate (s.pipelines.get? other) ((terminateEach rules o ids s).2.pipelines.get? other) := by
  induction ids generalizing s with
  | nil => exact .kept _
  | cons head rest ih =>
    rw [terminateEach]
    split
    · next status s' hact =>
      by_cases h : other = head
      · -- The id has had its turn; whatever follows finds it terminating.
        subst h
        have hfate := fate_of_act hact other
        obtain ⟨p, -, -, rfl⟩ := act_eq_ok hact
        have hget :
            ((s.put other { p with status := .terminating, updatedAt := o.time }).schedule o other
                .terminating .terminated (rules.delays.ofAction .terminate)).pipelines.get? other =
              some { p with status := .terminating, updatedAt := o.time } := by
          rw [pipelines_schedule, pipelines_put, Table.get?_insert, if_pos rfl]
        have hkept := get?_terminateEach_of_terminating rules o hget rfl rest
        exact (hget.trans hkept.symm) ▸ hfate
      · have hkept : s'.pipelines.get? other = s.pipelines.get? other := by
          obtain ⟨p, -, -, rfl⟩ := act_eq_ok hact
          rw [pipelines_schedule, pipelines_put, Table.get?_insert, if_neg h]
        exact hkept ▸ ih s'
    · next hact => exact atomic_act rules o head .terminate _ _ _ hact ▸ ih s

theorem fate_of_transition (s : Orchestrator) (o : Occasion) (id : String) (source target : Status)
    (other : String) :
    Fate (s.pipelines.get? other) ((s.transition o id source target).2.pipelines.get? other) := by
  rcases transition_eq s o id source target with ⟨-, h⟩ | ⟨p, hp, hedge, rfl, -, -, h⟩
  · rw [h]
    exact .kept _
  · rw [h]
    exact Fate.insert (hp ▸ .moved p target o.time hedge) other

theorem fate_of_perform {op : Operation} {reply : op.Reply}
    (h : perform rules o op s = (.ok reply, s')) (other : String) :
    Fate (s.pipelines.get? other) (s'.pipelines.get? other) := by
  cases op with
  | create config =>
    obtain ⟨hfree, -, hpipelines, -⟩ := create_eq_ok h
    rw [hpipelines]
    exact Fate.insert (hfree ▸ .created _ o.time) other
  | rename id name =>
    obtain ⟨p, hp, rfl⟩ := rename_eq_ok h
    exact Fate.insert (hp ▸ .renamed p name o.time) other
  | edit id config =>
    obtain ⟨p, hp, hedit, rfl⟩ := edit_eq_ok h
    exact Fate.insert (hp ▸ .edited p config o.time hedit) other
  | delete id =>
    obtain ⟨p, hp, hdelete, rfl⟩ := delete_eq_ok h
    exact Fate.erase (hp ▸ .deleted p hdelete) other
  | act id action => exact fate_of_act h other
  | terminateAll =>
    obtain rfl : (s.terminateAll rules o).2 = s' := congrArg Prod.snd h
    exact fate_of_terminateEach _ s other
  | _ => exact (perform_of_not_drivesPipelines rfl h).1 ▸ .kept _

/-- Whatever happens, every id meets one of the fates. -/
theorem fate_of_step (rules : Rules) (s : Orchestrator) (e : Event) (other : String) :
    Fate (s.pipelines.get? other) ((step rules s e).pipelines.get? other) := by
  cases e with
  | perform o op =>
    exact perform_induction (motive := fun t => Fate _ (t.pipelines.get? other)) (.kept _)
      fun _ _ h => fate_of_perform h other
  | fire o t =>
    rw [step]
    split
    · exact fate_of_transition { s with timers := s.timers.erase t } o t.id t.source t.target other
    · exact .kept _
  | simulate o id source target delay => exact .kept _
  | transition o id source target => exact fate_of_transition s o id source target other

end Fates

end PipelineConsole.Orchestrator
