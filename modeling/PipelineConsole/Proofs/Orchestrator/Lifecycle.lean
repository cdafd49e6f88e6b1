import Mathlib.Data.List.Chain
import PipelineConsole.Proofs.Orchestrator.Run

/-!
# Pipelines move along the lifecycle

Statuses are written in two places: an action puts a pipeline into its in-between status, which the
guard of the action allows, and a timer or a call moves it along an edge of the graph. Whatever
happens, in whatever order the timers fire, the statuses of a pipeline form a path of the graph that
starts where pipelines are created.

## Main definitions

* `Orchestrator.trace` — the states of a run
* `Orchestrator.statusPath` — the statuses of a pipeline since it was created
* `Orchestrator.IsLife` — a path of the graph from the creation to the status now
* `Pipeline.setup` — what an edit may change besides the name

## Main results

* `canBecome_optimistic` — the guards of the actions agree with the graph
* `runs_follow_lifecycle` — pipelines move along the graph, are deleted only at rest, and are
  edited only while stopped
-/

namespace PipelineConsole

/-- What a pipeline is made of, apart from its name, its status and its times. -/
def Pipeline.setup (p : Pipeline) : Json.Value × Json.Value × Option Json.Value ×
    Option Json.Value × Option Json.Value × Option Json.Value × Metadata :=
  (p.source, p.sink, p.join, p.filter, p.transformation, p.schema, p.metadata)

/-- An action that is allowed leads along an edge of the graph. -/
theorem Action.canBecome_optimistic {a : Action} {status : Status}
    (h : a.isAllowed status = true) : status.CanBecome a.optimistic := by
  revert h
  cases a <;> cases status <;> decide

/-- No edge leaves the status of a terminated pipeline. -/
theorem Status.not_terminated_canBecome (status : Status) : ¬ terminated.CanBecome status := by
  simp [CanBecome, successors]

namespace Orchestrator

/-- The states of a run, from the first to the last. -/
def trace (rules : Rules) : Orchestrator → List Event → List Orchestrator
  | s, [] => [s]
  | s, e :: rest => s :: trace rules (step rules s e) rest

/-- Adds the status of a pipeline to those that it had before, if it is a new one. Without a
pipeline there is nothing to tell. -/
def noteStatus (path : List Status) : Option Status → List Status
  | none => []
  | some status => if path.getLast? = some status then path else path ++ [status]

/-- The statuses that the pipeline of an id has had since it was created, in order; no status stands
twice in a row. -/
def statusPath (states : List Orchestrator) (id : String) : List Status :=
  (states.map (·.status? id)).foldl noteStatus []

/-- A path through the lifecycle: it starts with the creation, follows the edges of the graph, ends
with the status now, and goes on nowhere from the status of a terminated pipeline. -/
structure IsLife (path : List Status) (now : Option Status) : Prop where
  starts : ∀ status ∈ path.head?, status = .created
  follows : path.IsChain Status.CanBecome
  ends : path.getLast? = now
  final : .terminated ∉ path.dropLast

namespace IsLife

variable {path : List Status} {now : Option Status} {status target : Status}

theorem nil : IsLife [] none := ⟨by simp, .nil, rfl, by simp⟩

theorem singleton : IsLife [.created] (some .created) := ⟨by simp, .singleton _, rfl, by simp⟩

/-- A life goes on along an edge. -/
theorem extend (h : IsLife path (some status)) (hedge : status.CanBecome target) :
    IsLife (path ++ [target]) (some target) := by
  have hne : path ≠ [] := by
    rintro rfl
    simpa using h.ends
  refine ⟨?_, ?_, by simp, ?_⟩
  · rw [List.head?_append_of_ne_nil _ hne]
    exact h.starts
  · refine List.isChain_append.2 ⟨h.follows, .singleton _, ?_⟩
    intro x hx y hy
    obtain rfl : status = x := Option.some.inj (h.ends.symm.trans hx)
    obtain rfl : target = y := by simpa using hy
    exact hedge
  · rw [List.dropLast_concat]
    intro hterminated
    have hlast : path = path.dropLast ++ [status] :=
      (List.dropLast_append_getLast? _ h.ends).symm
    rw [hlast, List.mem_append, List.mem_singleton] at hterminated
    rcases hterminated with hmem | rfl
    · exact h.final hmem
    · exact Status.not_terminated_canBecome _ hedge

/-- Nothing is noted of a status that stays. -/
theorem note_same (h : IsLife path (some status)) :
    IsLife (noteStatus path (some status)) (some status) := by
  rw [noteStatus, if_pos h.ends]
  exact h

theorem note_edge (h : IsLife path (some status)) (hedge : status.CanBecome target) :
    IsLife (noteStatus path (some target)) (some target) := by
  rw [noteStatus]
  split
  · next heq => exact ⟨h.starts, h.follows, heq, h.final⟩
  · exact h.extend hedge

/-- Every fate carries a life on. -/
theorem note_fate {before after : Option Pipeline}
    (h : IsLife path (before.map Pipeline.status)) (hfate : Fate before after) :
    IsLife (noteStatus path (after.map Pipeline.status)) (after.map Pipeline.status) := by
  cases hfate with
  | kept =>
    cases before with
    | none => exact nil
    | some p => exact h.note_same
  | created c now =>
    -- Without a pipeline the path is empty, so that the life starts here.
    have hpath : path = [] := List.getLast?_eq_none_iff.1 h.ends
    rw [hpath]
    exact singleton
  | renamed p name now => exact h.note_same
  | edited p c now hedit => exact h.note_same
  | deleted p hdelete => exact nil
  | acted p a now hallowed => exact h.note_edge (Action.canBecome_optimistic hallowed)
  | moved p target now hedge => exact h.note_edge hedge

end IsLife

section Runs

variable (rules : Rules) (id : String)

/-- A life that has led to a state is carried on by the rest of a run. -/
theorem isLife_foldl_trace (events : List Event) {s : Orchestrator} {path : List Status}
    (h : IsLife (noteStatus path (s.status? id)) (s.status? id)) :
    IsLife (((trace rules s events).map (·.status? id)).foldl noteStatus path)
      ((run rules s events).status? id) := by
  -- The path is generalized: what has been noted up to a state is itself a life.
  induction events generalizing s path with
  | nil => exact h
  | cons e rest ih =>
    rw [trace, List.map_cons, List.foldl_cons, run_cons]
    exact ih (h.note_fate (fate_of_step rules s e id))

/-- What a single event may do to a pipeline that is there. -/
theorem step_respects_status {s : Orchestrator} {p : Pipeline} (e : Event)
    (hp : s.pipelines.get? id = some p) :
    match (step rules s e).pipelines.get? id with
    | none => p.status = .stopped ∨ p.status = .terminated ∨ p.status = .failed
    | some q => p.status ≠ .stopped → q.setup = p.setup := by
  have hfate := fate_of_step rules s e id
  rw [hp] at hfate
  generalize (step rules s e).pipelines.get? id = after at hfate
  cases hfate with
  | deleted _ hdelete => simpa [Status.canDelete, or_assoc] using hdelete
  | edited _ c now hedit => exact fun h => absurd (by simpa [Status.canEdit] using hedit) h
  | _ => exact fun _ => rfl

/-- In every run, the statuses of a pipeline form a path of the graph from its creation to its
status now, on which nothing follows its termination. A further event deletes the pipeline only
while it is stopped, terminated or failed, and changes what it is made of only while it is
stopped. -/
theorem runs_follow_lifecycle (welcomeAt lagAt : Timestamp) (events : List Event) :
    let start := fresh welcomeAt lagAt
    IsLife (statusPath (trace rules start events) id) ((run rules start events).status? id) ∧
      ∀ (e : Event) (p : Pipeline), (run rules start events).pipelines.get? id = some p →
        match (step rules (run rules start events) e).pipelines.get? id with
        | none => p.status = .stopped ∨ p.status = .terminated ∨ p.status = .failed
        | some q => p.status ≠ .stopped → q.setup = p.setup :=
  ⟨isLife_foldl_trace rules id events .nil, fun e _ hp => step_respects_status rules id e hp⟩

end Runs

end Orchestrator

end PipelineConsole
