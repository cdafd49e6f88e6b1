import PipelineConsole.Orchestrator.Basic

/-!
# Virtual surroundings

The surroundings of a scenario count what happens. From the count they make times of day, each later
than those before it, and ids, each another than those before it.

## Main definitions

* `Surroundings.moment`, `Surroundings.freshId` — the time of day and the id of a count
* `Surroundings.occasion` — what a step is provided with
* `Surroundings.orchestrator` — an orchestrator that has just started
-/

namespace PipelineConsole.Surroundings

/-- The day of all scenarios. -/
def day : Date := ⟨3000, 1, 1, by decide⟩

/-- A moment of the day, some nanoseconds after a second of its first half. -/
def afterSecond (second : Nat) (count : Nat) (h : second ≤ 43200 := by decide) : Timestamp :=
  ⟨day, second + count / 1000000000 % 43200, count % 1000000000, by omega⟩

/-- The time of day of a count. -/
def moment (count : Nat) : Timestamp := afterSecond 43200 count

/-- What all ids of scenarios start with. -/
def idStart : String := "00000000-0000-4000-8000-"

/-- The id of a count. -/
def freshId (count : Nat) : String := idStart ++ .ofList (Timestamp.padded 12 count)

/-- What a step is provided with. -/
def occasion (count elapsed : Nat) : Occasion where
  elapsed
  time := moment count
  freshId := freshId count

/-- An orchestrator that has just started: its first notification is two hours old, the second half
an hour. -/
def orchestrator : Orchestrator := .fresh (afterSecond 36000 0) (afterSecond 41400 0)

end PipelineConsole.Surroundings
