import PipelineConsole.Clock.Interval
import PipelineConsole.Scenario.Source
import PipelineConsole.Sync.Manager

/-!
# Tracking statuses on a virtual clock

A manager and its worker run against a scripted source. The clock stands still while anything can be
done, and then jumps to the next time at which something is due. Commands are taken before anything
else that is due at the same time.

## Main definitions

* `Tracking` — the state of a run, with a log of calls, updates and notices
* `Tracking.settle` — does everything that can be done up to a time
* `Tracking.tell`, `Tracking.call` — what an observer does from outside
-/

namespace PipelineConsole

/-- What the source or the clock still owes the worker. -/
inductive Tracking.Owed where
  | nothing
  | opening (time : Nat) (attempt : ScriptedAttempt)
  | stream (since : Nat) (events : List ScriptedEvent) (staysOpen : Bool)
  | alarm (time : Nat)
  | answer (time : Nat) (result : CheckResult)

/-- A call to the source. -/
inductive Tracking.Call where
  | openStream (ids : List String)
  | check (id : String)
  deriving DecidableEq, Repr

/-- A run: whether updates are applied to the cache or left to an observer, the clock, and what has
happened so far, last first. -/
structure Tracking where
  appliesUpdates : Bool
  listening : Bool := true
  now : Nat := 0
  sync : StatusSync
  source : ScriptedSource
  owed : Tracking.Owed := .nothing
  ticker : Interval
  sweeps : Option Nat
  calls : List (Nat × Tracking.Call) := []
  updates : List (Nat × Update) := []
  notices : List (Nat × CacheNotice) := []
  /-- When an observer was told that there will be no more updates. -/
  closed : Option Nat := none

namespace Tracking

/-- The time and the input that are due next for the worker. -/
def due (t : Tracking) : Option (Nat × Worker.Input) :=
  match t.sync.worker.phase, t.owed with
  | .opening _, .opening time (.refuse _) => some (time, .refused)
  | .opening _, .opening time (.serve ..) => some (time, .opened)
  | .reading _, .stream since (e :: _) _ =>
    some (since + e.after, match e.event with
      | some e => .event e
      | none => .streamFault)
  | .reading _, .stream since [] false => some (since, .streamEnd)
  | .pausing, .alarm time => some (time, .pauseOver)
  | .polling, _ => some (t.ticker.due, .roundDue)
  | .fetching .., .answer time result => some (time, .health result)
  | _, _ => none

/-- Ends the run, as the worker has stopped: nothing is applied or dropped any more, and whoever is
listening is told so once. -/
def close (t : Tracking) : Tracking :=
  let told := if t.listening then some t.now else none
  { t with sweeps := none, closed := t.closed.or told }

/-- Makes the call or sets the clock that the phase of the worker asks for, which it has entered
from another. -/
def arrange (t : Tracking) (before : Worker.Phase) : Tracking :=
  match t.sync.worker.phase with
  | .opening ids =>
    let (attempt, source) := t.source.nextAttempt
    let after :=
      match attempt with
      | .refuse after | .serve after .. => after
    { t with
      source
      owed := .opening (t.now + after) attempt
      calls := (t.now, .openStream ids) :: t.calls }
  | .reading _ =>
    -- Between two events the stream goes on as it is.
    match before, t.owed with
    | .opening _, .opening _ (.serve _ events staysOpen) =>
      { t with owed := .stream t.now events staysOpen }
    | _, _ => t
  | .pausing =>
    match before with
    | .pausing => t
    | _ => { t with owed := .alarm (t.now + t.sync.worker.config.reconnectDelay) }
  | .polling =>
    match before with
    -- The rounds keep their rhythm.
    | .polling | .fetching .. => t
    | _ => { t with ticker := ⟨t.now, t.sync.worker.config.pollInterval⟩ }
  | .fetching id _ =>
    let (check, source) := t.source.nextCheck id
    { t with
      source
      owed := .answer (t.now + check.after) check.result
      calls := (t.now, .check id) :: t.calls }
  | .idle => t
  | .stopped => t.close

/-- Hands on the updates that the worker has queued. Nobody listening stops the worker. -/
def deliver (t : Tracking) : Tracking :=
  if t.appliesUpdates then
    let (sync, notices) := t.sync.applyAll
    { t with sync, notices := (notices.map (t.now, ·)).reverse ++ t.notices }
  else if t.sync.updates.isEmpty then t
  else if t.listening then
    { t with
      sync := { t.sync with updates := [] }
      updates := (t.sync.updates.map (t.now, ·)).reverse ++ t.updates }
  else { t with sync := { t.sync with updates := [], worker := t.sync.worker.stop } }

/-- Consumes what the input came from. -/
def consume (t : Tracking) (input : Worker.Input) : Tracking :=
  match input, t.owed with
  | .event _, .stream _ (_ :: events) staysOpen => { t with owed := .stream t.now events staysOpen }
  | .roundDue, _ => { t with ticker := t.ticker.fire t.now }
  | _, _ => t

/-- The worker takes an input that is due. -/
def work (t : Tracking) (input : Worker.Input) : Tracking :=
  let before := t.sync.worker.phase
  let t := t.consume input
  let t := { t with sync := t.sync.work input }.deliver
  t.arrange before

/-- The worker takes the next command. -/
def obey (t : Tracking) : Tracking :=
  let before := t.sync.worker.phase
  { t with sync := t.sync.obey }.deliver.arrange before

/-- The overrides that have reached their life time are dropped. -/
def sweep (t : Tracking) (k : Nat) : Tracking :=
  let (sync, notices) := t.sync.expire t.now
  { t with
    sync
    sweeps := some (k + 1)
    notices := (notices.map (t.now, ·)).reverse ++ t.notices }

/-- The time of the next sweep, if there are sweeps. -/
def nextSweep (t : Tracking) : Option (Nat × Nat) := do
  let life ← t.sync.life
  let k ← t.sweeps
  return (StatusSync.sweepTime life k, k)

/-- Does the next thing that can be done up to the limit; `none` if there is nothing. -/
def advance? (t : Tracking) (limit : Nat) : Option Tracking :=
  if t.sync.worker.takesCommands && !t.sync.commands.isEmpty then some t.obey
  else
    match t.nextSweep, t.due with
    | some (time, k), some (time', input) =>
      -- A sweep comes before whatever is due at the same time.
      if time ≤ time' then
        if time ≤ limit then some ({ t with now := max t.now time }.sweep k) else none
      else if time' ≤ limit then some ({ t with now := max t.now time' }.work input)
      else none
    | some (time, k), none =>
      if time ≤ limit then some ({ t with now := max t.now time }.sweep k) else none
    | none, some (time, input) =>
      if time ≤ limit then some ({ t with now := max t.now time }.work input) else none
    | none, none => none

/-- Does everything that can be done up to the limit, but no more than `fuel` things, and lets the
time pass to the limit. -/
def settle (t : Tracking) (limit : Nat) : (fuel : Nat) → Tracking
  | 0 => { t with now := max t.now limit }
  | fuel + 1 =>
    match t.advance? limit with
    | some t => settle t limit fuel
    | none => { t with now := max t.now limit }

/-- More than any run does. -/
def maxSteps : Nat := 1000000

/-- A run that has just started and settled. -/
def start (config : TransportConfig) (life : Option Nat) (ids : List String)
    (source : ScriptedSource) (appliesUpdates : Bool) : Tracking :=
  let t : Tracking :=
    { appliesUpdates
      sync := StatusSync.start config life ids
      source
      ticker := ⟨0, config.pollInterval⟩
      sweeps := life.map fun _ => 0 }
  (t.arrange .stopped).settle 0 maxSteps

/-- Something is done from outside at a time, before which everything due has happened. -/
def act (t : Tracking) (time : Nat) (f : Tracking → Tracking) : Tracking :=
  let time := max time t.now
  (f (t.settle time maxSteps)).settle time maxSteps

/-- A call of the manager that sends notices. -/
def call (t : Tracking) (f : StatusSync → Nat → StatusSync × List CacheNotice) : Tracking :=
  let (sync, notices) := f t.sync t.now
  { t with sync, notices := (notices.map (t.now, ·)).reverse ++ t.notices }

/-- Stops the worker and the application of updates. -/
def shutdown (t : Tracking) : Tracking :=
  { t with sync := { t.sync with worker := t.sync.worker.stop } }.close

end Tracking

end PipelineConsole
