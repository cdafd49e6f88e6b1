import PipelineConsole.Clock.Interval
import PipelineConsole.StatusStream.Feed

/-!
# A feed on a clock

A feed makes its rounds at one interval, the first at once, and sends heartbeats at another, the
first after one period. While the checks of a round are under way nothing else happens.

## Main definitions

* `TickingFeed` — a feed with its intervals
* `TickingFeed.Due` — what is due next
* `TickingFeed.finish`, `TickingFeed.beat` — the end of a round, and a heartbeat
-/

namespace PipelineConsole

/-- A feed with the pipelines that it checks and its intervals. -/
structure TickingFeed where
  ids : List String
  feed : Feed := {}
  rounds : Interval
  heartbeats : Interval

namespace TickingFeed

/-- What is due next. -/
inductive Due where
  | round
  | heartbeat
  deriving DecidableEq, Repr

/-- A feed that starts now. -/
def start (ids : List String) (pollPeriod heartbeatPeriod now : Nat) : TickingFeed where
  ids
  rounds := ⟨now, pollPeriod⟩
  heartbeats := ⟨now + heartbeatPeriod, heartbeatPeriod⟩

/-- The time at which something is due next, and what; a round comes before a heartbeat. -/
def next (t : TickingFeed) : Nat × Due :=
  if t.rounds.due ≤ t.heartbeats.due then (t.rounds.due, .round) else (t.heartbeats.due, .heartbeat)

/-- The beginning of a round. -/
def beginRound (t : TickingFeed) (now : Nat) : TickingFeed := { t with rounds := t.rounds.fire now }

/-- The end of a round: its events. -/
def finish (t : TickingFeed) (results : List (String × CheckResult)) (clock : Nat → Timestamp) :
    TickingFeed × List StatusEvent :=
  let (feed, events) := t.feed.round results clock
  ({ t with feed }, events)

/-- A heartbeat. -/
def beat (t : TickingFeed) (now : Nat) (time : Timestamp) : TickingFeed × List StatusEvent :=
  ({ t with heartbeats := t.heartbeats.fire now }, [.heartbeat time])

end TickingFeed

end PipelineConsole
