import PipelineConsole.Sync.Cache
import PipelineConsole.Sync.Worker

/-!
# Keeping a live view of statuses

The manager keeps the status cache up to date: it tells the worker what to watch through a queue of
commands, and applies the worker's updates, which come in through another queue, to the cache. An
update of a pipeline that is not watched any more is dropped.

Manager, worker and the application of updates move independently of each other; each function below
is one uninterrupted step of one of them. Watching takes two such steps.

## Main definitions

* `StatusSync` — the state shared by all parties
* `StatusSync.enlist`, `StatusSync.tell`, `StatusSync.watch`, `StatusSync.unwatch`,
  `StatusSync.assume`, `StatusSync.revert` — calls
* `StatusSync.obey`, `StatusSync.work` — steps of the worker
* `StatusSync.applyNext`, `StatusSync.expire` — steps of the application of updates
-/

namespace PipelineConsole

/-- The state of a manager with its worker and the queues between them. -/
structure StatusSync where
  life : Option Nat
  watched : IdSet
  cache : Cache := {}
  commands : List Command := []
  updates : List Update := []
  worker : Worker

namespace StatusSync

/-- A manager that is about to start. -/
def start (config : TransportConfig) (life : Option Nat) (ids : List String) : StatusSync where
  life
  watched := IdSet.ofList ids
  worker := Worker.start config ids

/-- First step of watching: the manager notes the id. -/
def enlist (s : StatusSync) (id : String) : StatusSync := { s with watched := s.watched.insert id }

/-- Queues a command for the worker; for watching this is the second step. -/
def tell (s : StatusSync) (c : Command) : StatusSync := { s with commands := s.commands ++ [c] }

/-- Starts to track a pipeline. -/
def watch (s : StatusSync) (id : String) : StatusSync := (s.enlist id).tell (.watch id)

/-- Stops tracking a pipeline and forgets what is known about it. -/
def unwatch (s : StatusSync) (id : String) : StatusSync :=
  { s.tell (.unwatch id) with watched := s.watched.erase id, cache := s.cache.erase id }

/-- Shows a status until the next confirmation. -/
def assume (s : StatusSync) (now : Nat) (id : String) (status : Status) :
    StatusSync × List CacheNotice :=
  let (cache, notices) := s.cache.assume now id status
  ({ s with cache }, notices)

/-- Shows the in-between status of an action. -/
def assumeAction (s : StatusSync) (now : Nat) (id : String) (action : Action) :
    StatusSync × List CacheNotice :=
  s.assume now id action.optimistic

/-- Drops the override of a pipeline. -/
def revert (s : StatusSync) (id : String) : StatusSync × List CacheNotice :=
  let (cache, notices) := s.cache.revert id
  ({ s with cache }, notices)

/-- The worker takes an input; its updates are queued. -/
def work (s : StatusSync) (input : Worker.Input) : StatusSync :=
  let (worker, updates) := s.worker.step input
  { s with worker, updates := s.updates ++ updates }

/-- The worker takes the next command, if it takes commands in its phase and there is one. -/
def obey (s : StatusSync) : StatusSync :=
  match s.commands with
  | [] => s
  | c :: rest =>
    if s.worker.takesCommands then { s with commands := rest }.work (.command c) else s

/-- Applies an update to the cache, unless its pipeline is not watched. -/
def apply (s : StatusSync) (u : Update) : StatusSync × List CacheNotice :=
  if u.id ∈ s.watched then
    let (cache, notices) :=
      match u with
      | .status id status => s.cache.confirm id status
      | .failed id error => s.cache.fail id error
    ({ s with cache }, notices)
  else (s, [])

/-- Applies the next update, if there is one. -/
def applyNext (s : StatusSync) : StatusSync × List CacheNotice :=
  match s.updates with
  | [] => (s, [])
  | u :: rest => { s with updates := rest }.apply u

/-- Drops the overrides that have reached their life time. -/
def expire (s : StatusSync) (now : Nat) : StatusSync × List CacheNotice :=
  let (cache, notices, _) := s.cache.expire now s.life
  ({ s with cache }, notices)

/-- Applies all queued updates in order. -/
def applyAll (s : StatusSync) : StatusSync × List CacheNotice :=
  s.updates.foldl (fun (s, notices) u =>
    let (s, more) := s.apply u
    (s, notices ++ more)) ({ s with updates := [] }, [])

/-- The time of the sweep number `k` for overrides to drop: sweeps are half a life time apart, but
no less than 100 ms, and happen on full milliseconds. -/
def sweepTime (life k : Nat) : Nat := (k * max life 200 + 1) / 2

end StatusSync

end PipelineConsole
