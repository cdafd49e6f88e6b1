import PipelineConsole.Fault.ErrorBody
import PipelineConsole.StatusStream.Event
import PipelineConsole.Table

/-!
# The feed of a status stream

A feed checks the pipelines of a stream in rounds. The first round tells all statuses, every later
one only what has changed since, and a failure is told again only when it is another one.

## Main definitions

* `Feed.Seen`, `Seen.observe` — what the listener knows, and what a round adds to it
* `Feed`, `Feed.round` — the events of a round
-/

namespace PipelineConsole

/-- The result of checking a pipeline. -/
abbrev CheckResult := Except ErrorBody Status

namespace Feed

/-- What the listener has been told about each pipeline. -/
structure Seen where
  statuses : Table Status := {}
  errors : Table ErrorBody := {}

namespace Seen

/-- Takes in the result for one pipeline. -/
def observeOne (s : Seen) (id : String) : CheckResult → Seen × List StatusChange × List StreamFault
  | .ok status =>
    let previous := s.statuses.get? id
    ({ statuses := s.statuses.insert id status, errors := s.errors.erase id },
      if previous = some status then [] else [⟨id, status, previous⟩], [])
  | .error error =>
    if s.errors.get? id = some error then (s, [], [])
    else
      ({ s with errors := s.errors.insert id error }, [], [⟨some id, error.code, error.message⟩])

/-- Takes in the results of a round: the changes and the failures that the listener has not been
told yet. -/
def observe (s : Seen) :
    List (String × CheckResult) → Seen × List StatusChange × List StreamFault
  | [] => (s, [], [])
  | (id, result) :: rest =>
    let (s, changes, faults) := s.observeOne id result
    let (s, laterChanges, laterFaults) := observe s rest
    (s, changes ++ laterChanges, faults ++ laterFaults)

end Seen

end Feed

/-- The state of a feed: what the listener knows, and whether the first round is over. -/
structure Feed where
  seen : Feed.Seen := {}
  started : Bool := false

namespace Feed

/-- The events of a round, failures first. The first round sends a batch even of no change. The
clock is read for every failure, and once more at the end. -/
def round (f : Feed) (results : List (String × CheckResult)) (clock : Nat → Timestamp) :
    Feed × List StatusEvent :=
  let (seen, changes, faults) := f.seen.observe results
  let time := clock faults.length
  let news :=
    if f.started then (StatusEvent.ofChanges? changes time).toList
    else [.batchUpdate changes time]
  ({ seen, started := true }, faults.mapIdx (fun n fault => .fault fault (clock n)) ++ news)

end Feed

end PipelineConsole
