import PipelineConsole.Orchestrator.Handler
import PipelineConsole.Time.Order

/-!
# Calls about pipelines

Some calls take two sections, each of which works on one part of the state without interruption:
creating a pipeline adds it and then its queue, deleting it removes it and then its queue, and the
calls about dead letters look for the pipeline before they turn to its queue.

## Main definitions

* `Orchestrator.active?`, `Orchestrator.ensureRoom` — what stands in the way of a new pipeline
* `Orchestrator.create`, with the sections `Orchestrator.accept` and `Orchestrator.seedQueue`
* `Orchestrator.list`, `Orchestrator.get`, `Orchestrator.health` — what is told about pipelines
* `Orchestrator.rename`, `Orchestrator.edit` — changes of a pipeline
* `Orchestrator.delete`, with the sections `Orchestrator.withdraw` and `Orchestrator.dropQueue`
* `Orchestrator.act`, `Orchestrator.terminateAll` — actions
* `Orchestrator.deadLetters`, `Orchestrator.consume`, `Orchestrator.purge` — dead letters
-/

namespace PipelineConsole.Orchestrator

open Handler (look ensure commit update)

/-- A pipeline that is active, if there is one. Of several it is the one that is met first. -/
def active? (s : Orchestrator) (o : Occasion) : Option Pipeline :=
  (s.pipelines.valuesFrom o.order).find? (·.status.isActive)

/-- Puts a pipeline in the place of the one with the given id. -/
def put (s : Orchestrator) (id : String) (p : Pipeline) : Orchestrator :=
  { s with pipelines := s.pipelines.insert id p }

/-- Refuses a new pipeline if its id is taken, or if the rules do not allow another one. -/
def ensureRoom (s : Orchestrator) (rules : Rules) (o : Occasion) (id : String) :
    Except Fault Unit :=
  if s.pipelines.contains id then .error (.idTaken id)
  else
    match if rules.singleActive then s.active? o else none with
    | some p => .error (.alreadyRunning p.id)
    | none => .ok ()

/-- The first section of a creation: the pipeline is added. -/
def accept (rules : Rules) (o : Occasion) (config : PipelineConfig) : Handler Unit := do
  look (·.ensureRoom rules o config.id)
  update (·.put config.id (.ofConfig config .created o.time))

/-- The second section of a creation: the pipeline gets its queue. -/
def seedQueue (s : Orchestrator) (o : Occasion) (id : String) : Orchestrator :=
  { s with queues := s.queues.insert id (.seeded (Demo.deadLetters id) o.time) }

/-- Creates a pipeline, which runs after a while, and returns its id. A blank id stands for a fresh
one. -/
def create (rules : Rules) (o : Occasion) (config : PipelineConfig) : Handler String := do
  look fun _ => config.check.mapError .invalidConfig
  let id := if Text.isBlankText config.id then o.freshId else config.id
  accept rules o { config with id }
  update (·.seedQueue o id)
  update (·.schedule o id .created .running rules.delays.start)
  return id

/-- The pipelines, the newest first. -/
def list (s : Orchestrator) (o : Occasion) : List Pipeline.ListItem :=
  Timestamp.newestFirst Pipeline.ListItem.createdAt
    ((s.pipelines.valuesFrom o.order).map Pipeline.listItem)

/-- A pipeline. -/
def get (s : Orchestrator) (id : String) : Except Fault Pipeline :=
  match s.pipelines.get? id with
  | some p => .ok p
  | none => .error (.unknownPipeline id)

/-- The health of a pipeline. -/
def health (s : Orchestrator) (o : Occasion) (id : String) : Except Fault Pipeline.Health := do
  let p ← s.get id
  return ⟨p.id, p.name, p.status, p.createdAt, o.time⟩

/-- Gives a pipeline another name. -/
def rename (o : Occasion) (id name : String) : Handler Unit := do
  ensure (!Text.isBlankText name) .blankName
  let p ← look (·.get id)
  update (·.put id { p with name, updatedAt := o.time })

/-- Gives a pipeline another configuration, which takes that nothing is deployed. -/
def edit (o : Occasion) (id : String) (config : PipelineConfig) : Handler Unit := do
  look fun _ => config.check.mapError .invalidConfig
  let p ← look (·.get id)
  ensure p.status.canEdit (.notEditable p.status)
  update (·.put id (p.applyConfig config o.time))

/-- The first section of a deletion: the pipeline is removed, if its status allows it. -/
def withdraw (id : String) : Handler Unit := do
  let p ← look (·.get id)
  ensure p.status.canDelete (.notDeletable p.status)
  update fun s => { s with pipelines := s.pipelines.erase id }

/-- The second section of a deletion: the queue is removed. -/
def dropQueue (s : Orchestrator) (id : String) : Orchestrator :=
  { s with queues := s.queues.erase id }

/-- Deletes a pipeline with its queue. -/
def delete (id : String) : Handler Unit := do
  withdraw id
  update (·.dropQueue id)

/-- Starts an action: the pipeline is in the in-between status at once, which is the answer, and a
timer is set for the rest. -/
def act (rules : Rules) (o : Occasion) (id : String) (action : Action) : Handler Status := do
  let p ← look (·.get id)
  ensure (action.isAllowed p.status) (.notAllowed id ⟨p.status, action.optimistic⟩)
  update (·.put id { p with status := action.optimistic, updatedAt := o.time })
  update (·.schedule o id action.optimistic action.final (rules.delays.ofAction action))
  return action.optimistic

/-- Terminates pipelines one after the other and returns the ids of those that could be. -/
def terminateEach (rules : Rules) (o : Occasion) :
    List String → Orchestrator → List String × Orchestrator
  | [], s => ([], s)
  | id :: rest, s =>
    match act rules o id .terminate s with
    | (.ok _, s) =>
      let (ids, s) := terminateEach rules o rest s
      (id :: ids, s)
    | (.error _, s) => terminateEach rules o rest s

/-- The ids of the pipelines that can be terminated, in the order in which they are met. -/
def candidates (s : Orchestrator) (o : Occasion) : List String :=
  ((s.pipelines.valuesFrom o.order).filter (·.status.canTerminate)).map Pipeline.id

/-- Terminates all pipelines that can be, and returns their ids in order. -/
def terminateAll (s : Orchestrator) (rules : Rules) (o : Occasion) : List String × Orchestrator :=
  let (ids, s) := terminateEach rules o (s.candidates o) s
  (ids.mergeSort (· ≤ ·), s)

/-- Refuses an id without pipeline. -/
def ensureExists (s : Orchestrator) (id : String) : Except Fault Unit := do
  let _ ← s.get id

/-- The counters of a pipeline's queue. -/
def deadLetters (s : Orchestrator) (id : String) : Except Fault DeadLetter.State := do
  s.ensureExists id
  return ((s.queues.get? id).map DeadLetter.Queue.state).getD {}

/-- Takes a batch from a queue, which is there from then on. -/
def takeBatch (s : Orchestrator) (o : Occasion) (id : String) (size : Nat) :
    List DeadLetter.Message × Orchestrator :=
  let (batch, queue) := ((s.queues.get? id).getD {}).consume size o.time
  (batch, { s with queues := s.queues.insert id queue })

/-- The size of a batch, unless more is asked for than is allowed. -/
def readBatchSize (size : Option UInt64) : Except Fault Nat :=
  match DeadLetter.batchSize (size.map UInt64.toNat) with
  | some size => .ok size
  | none => .error .batchTooLarge

/-- Takes a batch from a pipeline's queue. -/
def consume (o : Occasion) (id : String) (size : Option UInt64) :
    Handler (List DeadLetter.Message) := do
  let size ← look fun _ => readBatchSize size
  look (·.ensureExists id)
  commit (·.takeBatch o id size)

/-- Empties a queue, if it is there. -/
def emptyQueue (s : Orchestrator) (id : String) : Orchestrator :=
  match s.queues.get? id with
  | some queue => { s with queues := s.queues.insert id queue.purge }
  | none => s

/-- Empties a pipeline's queue. -/
def purge (id : String) : Handler Unit := do
  look (·.ensureExists id)
  update (·.emptyQueue id)

end PipelineConsole.Orchestrator
