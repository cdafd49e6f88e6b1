import PipelineConsole.StatusStream.Ticking

/-!
# Rounds and heartbeats of a feed

A feed tells events on every tick of its clock. The order of the ticks is arbitrary here, so that
nothing depends on the intervals. Only rounds carry changes, and they carry what the listener has
not been told yet.

## Main definitions

* `TickingFeed.Tick`, `TickingFeed.tells` — rounds and heartbeats, and the events told on them
* `Tick.rounds` — the answers of the rounds
* `Feed.successes` — the statuses that a round has found

## Main results

* `changes_round` — the changes that the events of a round carry
-/

namespace PipelineConsole

namespace Feed

/-- The statuses that a round has found, each as a change of its pipeline. -/
def successes (results : List (String × CheckResult)) : List StatusChange :=
  results.filterMap fun
    | (id, .ok status) => some { id, status }
    | (_, .error _) => none

@[simp] theorem successes_nil : successes [] = [] := rfl

@[simp] theorem successes_ok (id : String) (status : Status)
    (results : List (String × CheckResult)) :
    successes ((id, .ok status) :: results) = { id, status } :: successes results := rfl

@[simp] theorem successes_error (id : String) (error : ErrorBody)
    (results : List (String × CheckResult)) :
    successes ((id, .error error) :: results) = successes results := rfl

@[simp] theorem successes_append (results later : List (String × CheckResult)) :
    successes (results ++ later) = successes results ++ successes later :=
  List.filterMap_append

/-- A failure changes what the listener knows of errors only. -/
theorem observeOne_error (s : Seen) (id : String) (error : ErrorBody) :
    (s.observeOne id (.error error)).2.1 = [] ∧
      (s.observeOne id (.error error)).1.statuses = s.statuses := by
  unfold Seen.observeOne
  dsimp only
  split
  · exact ⟨rfl, rfl⟩
  · exact ⟨rfl, rfl⟩

theorem changes_ofChanges? (changes : List StatusChange) (time : Timestamp) :
    (StatusEvent.ofChanges? changes time).toList.flatMap StatusEvent.changes = changes := by
  match changes with
  | [] => rfl
  | [_] => rfl
  | _ :: _ :: _ => exact List.append_nil _

/-- The events of a round carry the changes that the listener has not been told yet. -/
theorem changes_round (f : Feed) (results : List (String × CheckResult)) (clock : Nat → Timestamp) :
    (f.round results clock).2.flatMap StatusEvent.changes = (f.seen.observe results).2.1 := by
  have hfaults (faults : List StreamFault) :
      (faults.mapIdx fun n fault => StatusEvent.fault fault (clock n)).flatMap
        StatusEvent.changes = [] := by
    refine List.flatMap_eq_nil_iff.2 fun e he => ?_
    obtain ⟨n, hn, rfl⟩ := List.mem_mapIdx.1 he
    rfl
  unfold round
  dsimp only
  rw [List.flatMap_append, hfaults, List.nil_append]
  split
  · exact changes_ofChanges? _ _
  · exact List.append_nil _

end Feed

namespace TickingFeed

/-- What happens in a feed. -/
inductive Tick where
  /-- A round, with the answer for every pipeline and what the clock shows as its events are
  written. -/
  | round (answers : String → CheckResult) (clock : Nat → Timestamp)
  | heartbeat (now : Nat) (time : Timestamp)

/-- The answers of the rounds. -/
def Tick.rounds (ticks : List Tick) : List (String → CheckResult) :=
  ticks.filterMap fun
    | .round answers _ => some answers
    | .heartbeat .. => none

/-- The answers of a round for some pipelines, in their order. -/
def results (ids : List String) (answers : String → CheckResult) : List (String × CheckResult) :=
  ids.map fun id => (id, answers id)

/-- The events told on a tick. -/
def tell (t : TickingFeed) : Tick → TickingFeed × List StatusEvent
  | .round answers clock => t.finish (results t.ids answers) clock
  | .heartbeat now time => t.beat now time

/-- The events told on the ticks of a feed. -/
def tells : TickingFeed → List Tick → List StatusEvent
  | _, [] => []
  | t, tick :: ticks => (t.tell tick).2 ++ tells (t.tell tick).1 ticks

end TickingFeed

end PipelineConsole
