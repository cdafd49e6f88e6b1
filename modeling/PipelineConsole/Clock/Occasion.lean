import PipelineConsole.Time.Timestamp

/-!
# Occasions

## Main definitions

* `Occasion` — what the surroundings provide to a step
-/

namespace PipelineConsole

/-- What the surroundings provide to a step: the milliseconds on their clock, the time of day, an id
that nothing has yet, and the order in which tables are gone through, which they have no say in. The
entries of the keys in `order` come first. -/
structure Occasion where
  elapsed : Nat
  time : Timestamp
  freshId : String
  order : List String := []
  deriving DecidableEq, Repr

end PipelineConsole
