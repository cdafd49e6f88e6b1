import PipelineConsole.Console.Remote
import PipelineConsole.Orchestrator.Routes
import PipelineConsole.Orchestrator.Transition
import PipelineConsole.Scenario.Surroundings
import PipelineConsole.StatusStream.Ticking

/-!
# Sessions on a virtual clock

In a session an in-memory orchestrator is used through two interfaces, its own and that of the
console in front of it. A console whose settings do not ask for it is in front of a deserted network
instead. Timers fire on a virtual clock; a listener may follow a status stream meanwhile. Of things
that are due at one time the one that was set first happens first.

## Main definitions

* `Session`, `Session.start` — sessions
* `Session.next?`, `Session.settle` — what happens on the clock
* `Session.request`, `Session.advance` — what a user does
* `Session.setStatus`, `Session.apply`, `Session.simulate`, … — direct access to the orchestrator
* `Session.listen`, `Session.hangUp` — following a status stream
-/

namespace PipelineConsole

/-- Who listens to a status stream: since when, when the next round was set, and the events received
so far, last first. -/
structure Listener where
  watch : Console.Watch
  ticking : TickingFeed
  since : Nat
  setAt : Timestamp
  events : List (Nat × StatusEvent) := []

/-- A session. Outcomes are those of awaited timers that have fired, by their tickets. -/
structure Session where
  settings : Settings := {}
  rules : Orchestrator.Rules := {}
  orchestrator : Orchestrator := Surroundings.orchestrator
  elapsed : Nat := 0
  count : Nat := 0
  nextTicket : Nat := 0
  outcomes : List (Nat × Bool) := []
  listener : Option Listener := none

namespace Session

/-- What happens on the clock. -/
inductive Happening where
  | timer (t : Timer)
  | tick (l : Listener) (due : TickingFeed.Due)

/-- The console of the session. -/
def console (s : Session) : Console Orchestrator :=
  if s.settings.mockMode then .inMemory s.settings s.rules
  else .remote s.settings .deserted .deserted

/-- What a step is provided with now. -/
def occasion (s : Session) : Occasion := Surroundings.occasion s.count s.elapsed

/-- The session after one more thing has happened. -/
def counted (s : Session) : Session := { s with count := s.count + 1 }

/-- The next thing to happen on the clock, with its time. -/
def next? (s : Session) : Option (Nat × Happening) :=
  let timer := Orchestrator.earliest? s.orchestrator.timers
  match s.listener, timer with
  | none, none => none
  | none, some t => some (t.due, .timer t)
  | some l, none => some (l.ticking.next.1, .tick l l.ticking.next.2)
  | some l, some t =>
    let (time, due) := l.ticking.next
    -- Of two things due at one time, the one that was set first comes first.
    if time < t.due ∨ (time = t.due ∧ l.setAt.isBefore t.setAt) then some (time, .tick l due)
    else some (t.due, .timer t)

/-- A timer fires. -/
def fire (s : Session) (t : Timer) : Session :=
  let (applied, orchestrator) := s.orchestrator.fire s.occasion t
  { s with
    orchestrator
    outcomes := s.outcomes ++ (t.ticket.map fun ticket => (ticket, applied)).toList }

/-- A listener's stream makes a round or sends a heartbeat. -/
def tick (s : Session) (l : Listener) (due : TickingFeed.Due) : Session :=
  let o := s.occasion
  match due with
  | .heartbeat =>
    let (ticking, events) := l.ticking.beat s.elapsed o.time
    { s with
      listener := some { l with
        ticking, events := (events.map (s.elapsed, ·)).reverse ++ l.events } }
  | .round =>
    let (results, orchestrator) := s.console.checkAll l.watch o l.ticking.ids s.orchestrator
    let (ticking, events) := (l.ticking.beginRound s.elapsed).finish results fun _ => o.time
    { s with
      orchestrator
      listener := some { l with
        ticking, setAt := o.time, events := (events.map (s.elapsed, ·)).reverse ++ l.events } }

/-- Something happens at a time of the clock. -/
def happen (s : Session) (time : Nat) (h : Happening) : Session :=
  let s := { s with elapsed := max s.elapsed time }
  match h with
  | .timer t => (s.fire t).counted
  | .tick l due => (s.tick l due).counted

/-- Lets everything happen that is due up to a time, but no more than `fuel` things. -/
def settleWith (s : Session) (limit : Nat) : (fuel : Nat) → Session
  | 0 => { s with elapsed := max s.elapsed limit }
  | fuel + 1 =>
    match s.next? with
    | some (time, h) =>
      if time ≤ limit then settleWith (s.happen time h) limit fuel
      else { s with elapsed := max s.elapsed limit }
    | none => { s with elapsed := max s.elapsed limit }

/-- Lets everything happen that is due up to a time. A listener is told something at most twice in a
millisecond. -/
def settle (s : Session) (limit : Nat) : Session :=
  s.settleWith limit (s.orchestrator.timers.length + 2 * (limit + 1 - s.elapsed))

/-- Changes the orchestrator and lets everything happen that is due. -/
def update {α : Type} (s : Session) (f : Orchestrator → Occasion → α × Orchestrator) :
    α × Session :=
  let (a, orchestrator) := f s.orchestrator s.occasion
  (a, { s.counted with orchestrator }.settle s.elapsed)

/-- The two interfaces. -/
inductive Side where
  | console
  | orchestrator
  deriving DecidableEq, Repr

/-- A request to one of the interfaces. -/
def request (s : Session) (side : Side) (r : Http.Request) : Console.Answer × Session :=
  s.update fun orchestrator o =>
    match side with
    | .console => s.console.handle o r orchestrator
    | .orchestrator =>
      let (response, orchestrator) := orchestrator.handle s.rules o r
      (.response response, orchestrator)

/-- Lets time pass up to a time of the clock. -/
def advanceTo (s : Session) (time : Nat) : Session := s.settle (max s.elapsed time)

/-- Lets some milliseconds pass. -/
def advance (s : Session) (milliseconds : Nat) : Session := s.advanceTo (s.elapsed + milliseconds)

/-- Sets the status of a pipeline, and tells whether it is there. -/
def setStatus (s : Session) (id : String) (status : Status) : Bool × Session :=
  s.update fun orchestrator _ =>
    match orchestrator.pipelines.get? id with
    | some p => (true, orchestrator.put id { p with status })
    | none => (false, orchestrator)

/-- Removes a pipeline but not its queue, and tells whether it was there. -/
def forget (s : Session) (id : String) : Bool × Session :=
  s.update fun orchestrator _ =>
    (orchestrator.pipelines.contains id,
      { orchestrator with pipelines := orchestrator.pipelines.erase id })

/-- Removes the queue of a pipeline, and tells whether it was there. -/
def forgetQueue (s : Session) (id : String) : Bool × Session :=
  s.update fun orchestrator _ => (orchestrator.queues.contains id, orchestrator.dropQueue id)

/-- Whether a pipeline has a queue. -/
def hasQueue (s : Session) (id : String) : Bool := s.orchestrator.queues.contains id

/-- Adds notifications with numbered titles, and tells how many there are. -/
def notify (s : Session) (id : Option String) (severity : Severity) (title message : String)
    (count : Nat) : Nat × Session :=
  let s := (List.range count).foldl (fun s n =>
    (s.update fun orchestrator o =>
      ((), orchestrator.notify o id severity (title ++ " " ++ toString n) message)).2) s
  (s.orchestrator.notifications.length, s)

/-- Changes the status of a pipeline along an edge, and tells whether that was done. -/
def apply (s : Session) (id : String) (source target : Status) : Bool × Session :=
  s.update fun orchestrator o => orchestrator.transition o id source target

/-- Sets a timer and returns its ticket. -/
def simulate (s : Session) (id : String) (source target : Status) (delay : Nat) : Nat × Session :=
  let ticket := s.nextTicket
  { s with nextTicket := ticket + 1 }.update fun orchestrator o =>
    (ticket, orchestrator.scheduleFor (some ticket) o id source target delay)

/-- Waits until the timer with a ticket has fired, and tells whether its change was carried out and
how long that took. A ticket is good for one answer. -/
def join (s : Session) (ticket : Nat) : Option (Bool × Nat) × Session :=
  let due := ((s.orchestrator.timers.find? (·.ticket = some ticket)).map Timer.due).getD s.elapsed
  let later := s.advanceTo due
  ((later.outcomes.lookup ticket).map fun applied => (applied, later.elapsed - s.elapsed),
    { later with outcomes := later.outcomes.filter (·.1 ≠ ticket) })

/-- Begins to listen to a status stream. -/
def listen (s : Session) (w : Console.Watch) : Session :=
  let ticking :=
    TickingFeed.start w.ids s.settings.pollInterval s.settings.heartbeatInterval s.elapsed
  { s.counted with
    listener := some { watch := w, ticking, since := s.elapsed, setAt := s.occasion.time } }.settle
      s.elapsed

/-- Stops listening. The events have their times since the listening began. -/
def hangUp (s : Session) : List (Nat × StatusEvent) × Session :=
  let events := (s.listener.map fun l =>
    l.events.reverse.map fun (time, e) => (time - l.since, e)).getD []
  (events, { s with listener := none })

end Session

end PipelineConsole
