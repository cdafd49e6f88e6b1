import PipelineConsole.Proofs.Orchestrator.DeadLetters

/-!
# Operations keep to their own pipeline

Most operations are addressed to one id. What belongs to an id are its pipeline and its queue. An
operation, and likewise a timer, changes nothing that belongs to another id.

## Main definitions

* `Operation.addressee?` — the id that an operation is addressed to
* `Orchestrator.holdings` — what belongs to an id

## Main results

* `holdings_of_perform`, `holdings_of_fire` — nothing that belongs to another id is changed
-/

namespace PipelineConsole

/-- The id that an operation is addressed to, if it is addressed to a pipeline. A creation is
addressed to the id that the new pipeline gets. -/
def Operation.addressee? (o : Occasion) : Operation → Option String
  | create config => some (if Text.isBlankText config.id then o.freshId else config.id)
  | get id | rename id _ | edit id _ | delete id | act id _ | health id | deadLetters id
  | consume id _ | purge id => some id
  | _ => none

namespace Orchestrator

/-- What belongs to an id: its pipeline and its queue. -/
def holdings (s : Orchestrator) (id : String) : Option Pipeline × Option DeadLetter.Queue :=
  (s.pipelines.get? id, s.queues.get? id)

/-! ### What belongs to others stays as it is -/

section Frame

variable {s s' : Orchestrator} {rules : Rules} {o : Occasion} {id other : String}

theorem holdings_of_pipelines {p : Pipeline} (hne : other ≠ id)
    (hpipelines : s'.pipelines = s.pipelines.insert id p) (hqueues : s'.queues = s.queues) :
    s'.holdings other = s.holdings other := by
  rw [holdings, holdings, hpipelines, hqueues, Table.get?_insert, if_neg hne]

theorem holdings_of_queues {q : DeadLetter.Queue} (hne : other ≠ id)
    (hpipelines : s'.pipelines = s.pipelines) (hqueues : s'.queues = s.queues.insert id q) :
    s'.holdings other = s.holdings other := by
  rw [holdings, holdings, hpipelines, hqueues, Table.get?_insert, if_neg hne]

theorem holdings_emptyQueue (s : Orchestrator) (hne : other ≠ id) :
    (s.emptyQueue id).holdings other = s.holdings other := by
  rcases emptyQueue_cases s id with ⟨-, hsame⟩ | ⟨q, -, hempty⟩
  · rw [hsame]
  · rw [hempty]
    exact holdings_of_queues hne rfl rfl

/-- An operation changes nothing that belongs to an id that it is not addressed to, unless it is to
terminate all pipelines. -/
theorem holdings_of_perform {op : Operation} {reply : op.Reply} (hop : op ≠ .terminateAll)
    (hother : op.addressee? o ≠ some other) (h : perform rules o op s = (.ok reply, s')) :
    s'.holdings other = s.holdings other := by
  have hne {id : String} (hid : op.addressee? o = some id) : other ≠ id :=
    fun heq => hother (hid.trans (congrArg some heq.symm))
  cases op with
  | terminateAll => exact absurd rfl hop
  | create config =>
    have hid : other ≠ reply := hne (congrArg some (create_steps h).2.1.symm)
    obtain ⟨-, -, hpipelines, -⟩ := create_eq_ok h
    obtain ⟨q, hqueues⟩ := queues_of_create h
    rw [holdings, holdings, hpipelines, hqueues, Table.get?_insert, Table.get?_insert, if_neg hid,
      if_neg hid]
  | rename id name =>
    obtain ⟨p, -, rfl⟩ := rename_eq_ok h
    exact holdings_of_pipelines (hne rfl) rfl rfl
  | edit id config =>
    obtain ⟨p, -, -, rfl⟩ := edit_eq_ok h
    exact holdings_of_pipelines (hne rfl) rfl rfl
  | delete id =>
    obtain ⟨p, -, -, rfl⟩ := delete_eq_ok h
    rw [holdings, holdings, dropQueue, Table.get?_erase, Table.get?_erase, if_neg (hne rfl),
      if_neg (hne rfl)]
  | act id action =>
    obtain ⟨p, -, -, rfl⟩ := act_eq_ok h
    exact holdings_of_pipelines (hne rfl) rfl rfl
  | consume id size =>
    obtain ⟨-, n, htake⟩ := consume_eq_ok h
    obtain ⟨-, rfl⟩ := Prod.mk.inj htake
    exact holdings_of_queues (hne rfl) rfl rfl
  | purge id =>
    obtain rfl := purge_eq_ok h
    exact holdings_emptyQueue s (hne rfl)
  | _ =>
    have hpipelines := (perform_of_not_drivesPipelines rfl h).1
    rw [holdings, holdings, hpipelines, queues_of_perform rfl h]

/-- A timer that fires changes nothing that belongs to another id. -/
theorem holdings_of_fire {t : Timer} (hne : other ≠ t.id) :
    (s.fire o t).2.holdings other = s.holdings other := by
  rcases transition_eq { s with timers := s.timers.erase t } o t.id t.source t.target with
    ⟨-, hsame⟩ | ⟨p, -, -, -, -, -, hinsert⟩
  · rw [fire, hsame]
    rfl
  · exact holdings_of_pipelines hne hinsert (queues_fire s o t)

end Frame

end Orchestrator

end PipelineConsole
