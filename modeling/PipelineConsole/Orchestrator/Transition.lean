import PipelineConsole.Orchestrator.Basic

/-!
# Delayed changes of status

A timer carries out its change only if the pipeline is still in the status that the change starts
from; a pipeline that has moved on, or is gone, is left alone. A change that is carried out is
announced.

## Main definitions

* `Orchestrator.transition` — a change of status, carried out or dropped
* `Orchestrator.fire` — a timer fires
* `Orchestrator.earliest?` — the timer that is due first
-/

namespace PipelineConsole.Orchestrator

/-- How serious the news of a status is. -/
def severityOf (status : Status) : Severity := if status.isFailed then .error else .info

/-- Changes the status of a pipeline along an edge of the graph, if it is in the status that the
edge starts from, and announces the change. Tells whether the change was carried out. -/
def transition (s : Orchestrator) (o : Occasion) (id : String) (source target : Status) :
    Bool × Orchestrator :=
  match s.pipelines.get? id with
  | none => (false, s)
  | some p =>
    if source.CanBecome target ∧ p.status = source then
      let pipelines := s.pipelines.insert id { p with status := target, updatedAt := o.time }
      (true, { s with pipelines }.notify o (some id) (severityOf target)
        ("Pipeline " ++ target.name) ("Pipeline " ++ id ++ " is now " ++ target.name))
    else (false, s)

/-- A timer fires. Tells whether its change was carried out. -/
def fire (s : Orchestrator) (o : Occasion) (t : Timer) : Bool × Orchestrator :=
  { s with timers := s.timers.erase t }.transition o t.id t.source t.target

/-- The timer that is due first; of several, the one that was set first. -/
def earliest? : List Timer → Option Timer
  | [] => none
  | t :: rest =>
    match earliest? rest with
    | some u => if u.due < t.due then some u else some t
    | none => some t

end PipelineConsole.Orchestrator
