/-!
# Ranges of code points

Character classes above ASCII are tables of inclusive ranges of code points. Where characters are
mapped to others, neighbours often move by one distance, and a table of such runs is short.

## Main definitions

* `Text.CodeRanges`, `CodeRanges.contains` — a table and the membership test
* `Text.ShiftRun`, `ShiftRun.image?` — a run of code points that move by one distance
-/

namespace PipelineConsole.Text

/-- Inclusive ranges of code points, ascending. -/
abbrev CodeRanges := List (Nat × Nat)

/-- Whether a code point lies in one of the ranges. -/
def CodeRanges.contains (ranges : CodeRanges) (n : Nat) : Bool :=
  ranges.any fun r => r.1 ≤ n && n ≤ r.2

/-- A run of code points `first, first + stride, …, last` that are all mapped by adding `shift`. -/
structure ShiftRun where
  first : Nat
  last : Nat
  stride : Nat
  shift : Int

/-- The image of a code point that lies on the run. -/
def ShiftRun.image? (r : ShiftRun) (n : Nat) : Option Nat :=
  if r.first ≤ n && n ≤ r.last && (n - r.first) % r.stride == 0 then some (n + r.shift).toNat
  else none

end PipelineConsole.Text
