import PipelineConsole.Fault.ErrorBody
import PipelineConsole.StatusStream.Event
import PipelineConsole.Table

/-!
# The transport worker

The worker finds out the statuses of the watched pipelines. It first listens to a status stream and
opens it anew when it ends or fails; after too many failed attempts in a row it turns to checking
the health of each pipeline in regular rounds, and stays with that. Either way it reports a status
only when it differs from the one it reported last.

The worker is a machine: it waits in some phase for an input, and its step returns the updates to
send. Whoever runs the machine opens the stream, fetches the health and keeps the time that the
phase asks for.

## Main definitions

* `TransportConfig`, `TransportMode`, `Update`, `Command` — the vocabulary
* `Worker`, `Worker.Phase` — the state of the worker
* `Worker.Input`, `Worker.step` — what can happen to the worker, and what it does then
-/

namespace PipelineConsole

/-- How the worker deals with failures; times are in milliseconds. -/
structure TransportConfig where
  maxStreamFailures : Nat := 3
  reconnectDelay : Nat := 1000
  pollInterval : Nat := 2000
  maxPollFailures : Nat := 5
  deriving DecidableEq, Repr

/-- How statuses come in. -/
inductive TransportMode where
  | streaming
  | polling
  deriving DecidableEq, Repr

/-- What the worker reports. After a failure the pipeline is not checked until it is watched
anew. -/
inductive Update where
  | status (id : String) (status : Status)
  | failed (id : String) (error : ErrorBody)
  deriving DecidableEq, Repr

namespace Update

/-- The pipeline that an update is about. -/
def id : Update → String
  | .status id _ | .failed id _ => id

end Update

/-- What the worker is told. -/
inductive Command where
  | watch (id : String)
  | unwatch (id : String)
  deriving DecidableEq, Repr

namespace Command

/-- The pipeline that a command is about. -/
def id : Command → String
  | .watch id | .unwatch id => id

end Command

/-- Ids in ascending order, each once. -/
abbrev IdSet := List String

namespace IdSet

/-- Adds an id in its place. -/
def insert (id : String) : IdSet → IdSet
  | [] => [id]
  | x :: rest =>
    if id = x then x :: rest else if id < x then id :: x :: rest else x :: insert id rest

/-- Removes an id. -/
def erase (id : String) (ids : IdSet) : IdSet := ids.filter (· ≠ id)

/-- The ids of a list. -/
def ofList (ids : List String) : IdSet := ids.foldl (fun set id => insert id set) []

@[simp] theorem mem_insert {id x : String} {ids : IdSet} :
    x ∈ insert id ids ↔ x = id ∨ x ∈ ids := by
  induction ids with
  | nil => simp [insert]
  | cons y rest ih =>
    rw [insert]
    split
    · next h => simp [h]
    · split
      · exact List.mem_cons
      · rw [List.mem_cons, ih, List.mem_cons]
        exact or_left_comm

@[simp] theorem mem_erase {id x : String} {ids : IdSet} : x ∈ erase id ids ↔ x ∈ ids ∧ x ≠ id := by
  simp [erase]

end IdSet

/-- What the worker waits for. -/
inductive Worker.Phase where
  /-- A command, as nothing is watched. -/
  | idle
  /-- The answer to the request for a stream. -/
  | opening (ids : List String)
  /-- An event of the open stream, or a command; whether an event has come in already. -/
  | reading (delivered : Bool)
  /-- The end of the pause between two attempts, or a command. -/
  | pausing
  /-- The next round of checks, or a command. -/
  | polling
  /-- The answer to a health check; the checks that follow in the round. -/
  | fetching (id : String) (rest : List String)
  /-- Nothing any more. -/
  | stopped
  deriving DecidableEq, Repr

/-- The worker. -/
structure Worker where
  config : TransportConfig
  watched : IdSet
  lastSeen : Table Status := {}
  phase : Worker.Phase
  mode : TransportMode := .streaming
  streamFailures : Nat := 0
  pollFailures : Table Nat := {}
  exhausted : List String := []

namespace Worker

/-- What can happen to the worker. -/
inductive Input where
  | command (c : Command)
  | opened
  | refused
  | event (e : StatusEvent)
  | streamFault
  | streamEnd
  | pauseOver
  | roundDue
  | health (result : Except ErrorBody Status)

/-- Starts an attempt to open a stream, unless nothing is watched. -/
def attempt (w : Worker) : Worker :=
  { w with phase := if w.watched.isEmpty then .idle else .opening w.watched }

/-- A worker that is about to start. -/
def start (config : TransportConfig) (ids : List String) : Worker :=
  attempt { config, watched := IdSet.ofList ids, phase := .idle }

/-- Whether the worker takes commands in its phase. -/
def takesCommands (w : Worker) : Bool :=
  match w.phase with
  | .idle | .reading _ | .pausing | .polling => true
  | .opening _ | .fetching .. | .stopped => false

/-- Carries out a command; forgetting an id also forgets its last status. -/
def apply (w : Worker) : Command → Worker
  | .watch id => { w with watched := w.watched.insert id }
  | .unwatch id => { w with watched := w.watched.erase id, lastSeen := w.lastSeen.erase id }

/-- Whether a command changes the set of watched ids. -/
def changesWatched (w : Worker) : Command → Bool
  | .watch id => id ∉ w.watched
  | .unwatch id => id ∈ w.watched

/-- Reports a status of a watched pipeline if it is not the one reported last. -/
def observe (w : Worker) (id : String) (status : Status) : Worker × List Update :=
  if id ∉ w.watched ∨ w.lastSeen.get? id = some status then (w, [])
  else ({ w with lastSeen := w.lastSeen.insert id status }, [.status id status])

/-- Reports the changes of an event in order. -/
def observeAll (w : Worker) : List StatusChange → Worker × List Update
  | [] => (w, [])
  | c :: rest =>
    let (w, now) := w.observe c.id c.status
    let (w, later) := observeAll w rest
    (w, now ++ later)

/-- The worker turns to polling. It cannot keep rounds that have no time between them, and ends. -/
def turnToPolling (w : Worker) : Worker :=
  { w with mode := .polling, phase := if w.config.pollInterval = 0 then .stopped else .polling }

/-- An attempt has failed: after too many in a row the worker turns to polling, otherwise it
pauses. -/
def attemptFailed (w : Worker) : Worker :=
  let w := { w with streamFailures := w.streamFailures + 1 }
  if w.config.maxStreamFailures ≤ w.streamFailures then w.turnToPolling
  else { w with phase := .pausing }

/-- Starts the checks of a round, or waits for the next round if there is none left. -/
def fetchNext (w : Worker) : List String → Worker
  | [] => { w with phase := .polling }
  | id :: rest => { w with phase := .fetching id rest }

/-- The answer to the check of a pipeline. A pipeline that fails too often in a row is given up. -/
def checked (w : Worker) (id : String) : Except ErrorBody Status → Worker × List Update
  | .ok status => { w with pollFailures := w.pollFailures.erase id }.observe id status
  | .error error =>
    let count := (w.pollFailures.get? id).getD 0 + 1
    let w := { w with pollFailures := w.pollFailures.insert id count }
    if w.config.maxPollFailures ≤ count then
      ({ w with exhausted := id :: w.exhausted }, [.failed id error])
    else (w, [])

/-- A command in the polling phase gives its pipeline a fresh budget of failures. -/
def refresh (w : Worker) (id : String) : Worker :=
  { w with pollFailures := w.pollFailures.erase id, exhausted := w.exhausted.filter (· ≠ id) }

/-- What the worker does with an input. An input that it does not wait for is ignored. -/
def step (w : Worker) (input : Input) : Worker × List Update :=
  match w.phase, input with
  | .idle, .command c => ((w.apply c).attempt, [])
  | .opening _, .opened => ({ w with phase := .reading false }, [])
  | .opening _, .refused => (w.attemptFailed, [])
  | .reading _, .command c =>
    let changed := w.changesWatched c
    let w := w.apply c
    (if changed then w.attempt else w, [])
  | .reading delivered, .event e =>
    -- A stream that opens proves nothing; only its first event makes up for earlier failures.
    { w with
      phase := .reading true
      streamFailures := if delivered then w.streamFailures else 0 }.observeAll e.changes
  | .reading _, .streamFault => (w.attemptFailed, [])
  -- The end of a stream is a failure only if nothing has come in.
  | .reading true, .streamEnd => ({ w with phase := .pausing }, [])
  | .reading false, .streamEnd => (w.attemptFailed, [])
  -- The pause goes on whatever is watched.
  | .pausing, .command c => (w.apply c, [])
  | .pausing, .pauseOver => (w.attempt, [])
  | .polling, .command c => ((w.refresh c.id).apply c, [])
  | .polling, .roundDue => (w.fetchNext (w.watched.filter (· ∉ w.exhausted)), [])
  | .fetching id rest, .health result =>
    let (w, updates) := w.checked id result
    (w.fetchNext rest, updates)
  | _, _ => (w, [])

/-- The worker after it has been stopped. -/
def stop (w : Worker) : Worker := { w with phase := .stopped }

end Worker

end PipelineConsole
