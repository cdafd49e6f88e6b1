import PipelineConsole.Time.Timestamp

/-!
# The order of moments

## Main definitions

* `Timestamp.isBefore` — whether a moment comes before another
* `Timestamp.newestFirst` — things sorted by a moment of theirs, the latest first
-/

namespace PipelineConsole.Timestamp

/-- The parts of a moment, from the greatest to the least; moments are compared by them in this
order. -/
def parts (t : Timestamp) : List Int := [t.date.year, t.date.month, t.date.day, t.second, t.nano]

/-- Whether a moment comes before another. -/
def isBefore (t u : Timestamp) : Bool := decide (t.parts < u.parts)

/-- Sorts things by a moment of theirs, the latest first; things of one moment keep their order. -/
def newestFirst {α : Type} (moment : α → Timestamp) (xs : List α) : List α :=
  xs.mergeSort fun a b => !(moment a).isBefore (moment b)

end PipelineConsole.Timestamp
