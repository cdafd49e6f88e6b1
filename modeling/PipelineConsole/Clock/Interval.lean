/-!
# Intervals

An interval fires again and again on a clock. It is set for the time of its last due date and one
period; when it fires much later than it was due, the period counts from then.

## Main definitions

* `Interval`, `Interval.fire` — an interval and its next due date
-/

namespace PipelineConsole

/-- When an interval is due next, and its period, in milliseconds. -/
structure Interval where
  due : Nat
  period : Nat
  deriving DecidableEq, Repr

namespace Interval

/-- How late an interval may fire and still keep its rhythm. -/
def tolerance : Nat := 5

/-- The interval after it fired at a time not before it was due. -/
def fire (i : Interval) (now : Nat) : Interval :=
  { i with due := (if i.due + tolerance < now then now else i.due) + i.period }

end Interval

end PipelineConsole
