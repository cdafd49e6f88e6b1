import PipelineConsole.Json.Value

/-!
# Number literals

The digits of a literal are gathered into an unsigned 64-bit significand; digits that no longer fit
are dropped and shift the decimal exponent instead. A literal without fraction and exponent whose
digits all fit is an integer. Any other is the significand as a double, multiplied or divided by the
nearest double to a power of ten, in steps of `10^308` when the exponent is lower than that. A
result that is not finite makes the literal unreadable.

## Main definitions

* `Json.Numeral` — the parts of a literal
* `Numeral.number?` — its value
-/

namespace PipelineConsole.Json

/-- The parts of a number literal: digits before and after the point, and the exponent's sign and
digits. -/
structure Numeral where
  negative : Bool
  whole : List Nat
  fraction : Option (List Nat)
  exponent : Option (Bool × List Nat)
  deriving Repr

namespace Numeral

/-- The greatest significand. -/
def maxSignificand : Nat := UInt64.size - 1

/-- The greatest written exponent. -/
def maxExponent : Nat := Nat.pow 2 31 - 1

/-- Appends digits while the significand fits; the digits from the first that does not are left. -/
def gather (bound : Nat) : (significand : Nat) → (digits : List Nat) → Nat × List Nat
  | s, [] => (s, [])
  | s, d :: ds => if s * 10 + d ≤ bound then gather bound (s * 10 + d) ds else (s, d :: ds)

/-- Scales a magnitude by a power of ten; `none` when the result is not finite. A magnitude is
divided by `10^308` as long as the exponent is below `-308`, which `fuel` bounds: after three
divisions it is zero. -/
def scale : (fuel : Nat) → Binary64 → (exponent : Int) → Option Binary64
  | 0, f, _ => some f
  | fuel + 1, f, exponent =>
    if exponent.natAbs ≤ 308 then
      let power := Binary64.ofNat (Nat.pow 10 exponent.natAbs)
      if 0 ≤ exponent then
        let product := f.mul power
        if product.isFinite then some product else none
      else some (f.div power)
    else if f.magnitude = 0 then some f
    else if 0 ≤ exponent then none
    else scale fuel (f.div (Binary64.ofNat (Nat.pow 10 308))) (exponent + 308)

/-- The double `± significand · 10^exponent`. -/
def float? (negative : Bool) (significand : Nat) (exponent : Int) : Option Number :=
  (scale 5 (.ofNat significand) exponent).map fun f => .float (if negative then f.neg else f)

/-- The value of a literal; `none` when it is beyond the doubles. -/
def number? (n : Numeral) : Option Number :=
  let (wholeDigits, dropped) := gather maxSignificand 0 n.whole
  let (significand, kept) :=
    match n.fraction with
    | none => (wholeDigits, 0)
    | some ds =>
      let (s, rest) := gather maxSignificand wholeDigits ds
      (s, ds.length - rest.length)
  -- A digit that is left out before the point is a power of ten, and one that is kept behind it is
  -- a power less.
  let shift : Int := (dropped.length : Int) - kept
  match n.exponent with
  | some (down, ds) =>
    let (written, overflow) := gather maxExponent 0 ds
    if overflow.isEmpty then
      float? n.negative significand (if down then shift - written else shift + written)
    -- Such an exponent leaves nothing of the digits, or more than any double.
    else if significand ≠ 0 && !down then none
    else some (.float (.ofMagnitude n.negative 0))
  | none =>
    if n.fraction.isSome || !dropped.isEmpty then float? n.negative significand shift
    else if !n.negative then some (.int significand)
    -- No integer is the negative zero, and none is below the least of 64 bits.
    else if significand = 0 || Nat.pow 2 63 < significand then float? true significand 0
    else some (.int (-(significand : Int)))

end Numeral

end PipelineConsole.Json
