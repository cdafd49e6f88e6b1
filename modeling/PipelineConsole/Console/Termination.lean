import PipelineConsole.Pipeline.Basic
import PipelineConsole.Pipeline.Lifecycle

/-!
# Terminating all pipelines

An orchestrator that has no call for it is made to terminate all pipelines one by one. A pipeline
whose termination fails is left out of the answer.

## Main definitions

* `Termination.each` — terminates those of the listed pipelines that may be terminated
* `Termination.all` — lists the pipelines first
-/

namespace PipelineConsole.Termination

variable {σ : Type}

/-- Terminates, in order, those of the listed pipelines whose status allows it, and returns the ids
of those that were terminated. -/
def each (terminate : String → σ → Except ErrorBody Status × σ) :
    List Pipeline.ListItem → σ → List String × σ
  | [], s => ([], s)
  | p :: rest, s =>
    if p.status.canTerminate then
      match terminate p.id s with
      | (.ok _, s) =>
        let (ids, s) := each terminate rest s
        (p.id :: ids, s)
      | (.error _, s) => each terminate rest s
    else each terminate rest s

/-- Lists the pipelines and terminates them; an error of the list is the answer. -/
def all (list : σ → Except ErrorBody (List Pipeline.ListItem) × σ)
    (terminate : String → σ → Except ErrorBody Status × σ) (s : σ) :
    Except ErrorBody (List String) × σ :=
  match list s with
  | (.error e, s) => (.error e, s)
  | (.ok ps, s) =>
    let (ids, s) := each terminate ps s
    (.ok ids, s)

end PipelineConsole.Termination
