import PipelineConsole.Scenario.Source
import PipelineConsole.StatusStream.Ticking

/-!
# A feed on a virtual clock

A feed runs against a scripted source. All checks of a round start at the same time, and the round
ends with the slowest.

## Main definitions

* `Feeding.run` — the events of a feed with their times
-/

namespace PipelineConsole

/-- A run of a feed: the results of the round under way with the time of its end, and the events
sent so far, last first. -/
structure Feeding where
  ticking : TickingFeed
  source : ScriptedSource
  now : Nat := 0
  underWay : Option (Nat × List (String × CheckResult)) := none
  events : List (Nat × StatusEvent) := []

namespace Feeding

/-- The time of the next thing to happen. -/
def due (f : Feeding) : Nat :=
  match f.underWay with
  | some (time, _) => time
  | none => max f.now f.ticking.next.1

/-- The next thing happens; every event carries the same time stamp. -/
def advance (f : Feeding) (stamp : Timestamp) : Feeding :=
  let now := f.due
  match f.underWay with
  | some (_, results) =>
    let (ticking, events) := f.ticking.finish results fun _ => stamp
    { f with
      ticking, now
      underWay := none
      events := (events.map (now, ·)).reverse ++ f.events }
  | none =>
    match f.ticking.next.2 with
    | .heartbeat =>
      let (ticking, events) := f.ticking.beat now stamp
      { f with ticking, now, events := (events.map (now, ·)).reverse ++ f.events }
    | .round =>
      let (checks, source) := f.source.nextChecks f.ticking.ids
      -- The results are told once all of them are there.
      let slowest := (checks.map (·.2.after)).foldl max 0
      { f with
        ticking := f.ticking.beginRound now
        source, now
        underWay := some (now + slowest, checks.map fun (id, c) => (id, c.result)) }

/-- Everything that happens up to a time, but no more than `fuel` things. -/
def runUntil (f : Feeding) (limit : Nat) (stamp : Timestamp) : (fuel : Nat) → Feeding
  | 0 => f
  | fuel + 1 => if f.due ≤ limit then runUntil (f.advance stamp) limit stamp fuel else f

/-- The events of a feed with their times, up to a time. -/
def run (ids : List String) (pollPeriod heartbeatPeriod limit : Nat) (source : ScriptedSource)
    (stamp : Timestamp) : List (Nat × StatusEvent) :=
  let f : Feeding := { ticking := .start ids pollPeriod heartbeatPeriod 0, source }
  (f.runUntil limit stamp 1000000).events.reverse

end Feeding

end PipelineConsole
