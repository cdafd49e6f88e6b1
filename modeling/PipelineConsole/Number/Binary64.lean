/-!
# Double precision numbers

A double is its 64 bits; arithmetic goes through exact natural numbers. A finite double is
`m · 2^q`, and a positive ratio is rounded to the nearest double, a tie to the even one.

## Main definitions

* `Binary64` — a double; `Binary64.Parts`, `Binary64.parts` — its sign, significand and exponent
* `Number.roundDiv` — the quotient of two numbers rounded to nearest, ties to even
* `Binary64.ofRatio` — the double nearest to a ratio
* `Binary64.ofDecimal` — the double nearest to a decimal
* `Binary64.mul`, `Binary64.div` — the correctly rounded product and quotient of magnitudes
-/

namespace PipelineConsole

/-- A number in the 64-bit binary interchange format, as its bits. -/
structure Binary64 where
  bits : UInt64
  deriving DecidableEq, Repr

namespace Number

/-- The quotient `num / den` rounded to the nearest natural number, a tie to the even one. -/
def roundDiv (num den : Nat) : Nat :=
  let q := num / den
  let r := num % den
  if 2 * r < den then q
  else if den < 2 * r then q + 1
  else q + q % 2

/-- The greatest `k` with `2 ^ k ≤ num / den`, for positive `num` and `den`. -/
def floorLog2 (num den : Nat) : Int :=
  let k : Int := num.log2 - den.log2
  let below := if 0 ≤ k then num < den * Nat.pow 2 k.toNat else num * Nat.pow 2 (-k).toNat < den
  if below then k - 1 else k

end Number

namespace Binary64

/-- The bits of positive infinity. -/
def infinityBits : Nat := 0x7FF * Nat.pow 2 52

/-- A double from its sign and the bits below the sign; a magnitude beyond the finite ones becomes
infinite. -/
def ofMagnitude (negative : Bool) (magnitude : Nat) : Binary64 :=
  ⟨.ofNat ((if negative then Nat.pow 2 63 else 0) + min magnitude infinityBits)⟩

/-- The double nearest to `± num / den`; `den` is positive. With `2 ^ e` the unit in the last place
and `m` the rounded count of units, the bits below the sign are `(e + 1074) · 2^52 + m`, because the
leading bit of a normal significand adds one to the exponent field. -/
def ofRatio (negative : Bool) (num den : Nat) : Binary64 :=
  if num = 0 then ofMagnitude negative 0
  else
    let e := max (-1074) (Number.floorLog2 num den - 52)
    let m := if 0 ≤ e then Number.roundDiv num (den * Nat.pow 2 e.toNat)
      else Number.roundDiv (num * Nat.pow 2 (-e).toNat) den
    ofMagnitude negative ((e + 1074).toNat * Nat.pow 2 52 + m)

/-- The double nearest to `± digits · 10^exponent`. Exponents far outside the range of doubles are
decided by the number of digits alone. -/
def ofDecimal (negative : Bool) (digits : Nat) (exponent : Int) : Binary64 :=
  let size : Int := (Nat.toDigits 10 digits).length
  if digits = 0 || exponent + size < -400 then ofMagnitude negative 0
  else if 400 < exponent + size then ofMagnitude negative infinityBits
  else if 0 ≤ exponent then ofRatio negative (digits * Nat.pow 10 exponent.toNat) 1
  else ofRatio negative digits (Nat.pow 10 (-exponent).toNat)

/-- The sign, significand and exponent of a double. -/
inductive Parts where
  | nan
  | infinite (negative : Bool)
  | finite (negative : Bool) (significand : Nat) (exponent : Int)

/-- Whether the sign bit is set. -/
def isNegative (x : Binary64) : Bool := Nat.pow 2 63 ≤ x.bits.toNat

/-- The bits below the sign. -/
def magnitude (x : Binary64) : Nat := x.bits.toNat % Nat.pow 2 63

/-- A double taken apart. -/
def parts (x : Binary64) : Parts :=
  let field : Nat := x.magnitude / Nat.pow 2 52
  let fraction : Nat := x.magnitude % Nat.pow 2 52
  if field = 0x7FF then
    if fraction = 0 then .infinite x.isNegative else .nan
  else if field = 0 then .finite x.isNegative fraction (-1074)
  else .finite x.isNegative (Nat.pow 2 52 + fraction) ((field : Int) - 1075)

/-- Neither infinite nor a NaN. -/
def isFinite (x : Binary64) : Bool := x.magnitude < infinityBits

/-- The same magnitude with the other sign. -/
def neg (x : Binary64) : Binary64 := ofMagnitude (!x.isNegative) x.magnitude

/-- The integer nearest representation of a natural number. -/
def ofNat (n : Nat) : Binary64 := ofRatio false n 1

/-- The ratio `num / den` of a finite magnitude. -/
def toRatio (x : Binary64) : Nat × Nat :=
  match x.parts with
  | .finite _ m q => if 0 ≤ q then (m * Nat.pow 2 q.toNat, 1) else (m, Nat.pow 2 (-q).toNat)
  | _ => (0, 1)

/-- The product of two non-negative finite doubles. -/
def mul (x y : Binary64) : Binary64 :=
  ofRatio false (x.toRatio.1 * y.toRatio.1) (x.toRatio.2 * y.toRatio.2)

/-- The quotient of a non-negative finite double by a positive one. -/
def div (x y : Binary64) : Binary64 :=
  ofRatio false (x.toRatio.1 * y.toRatio.2) (x.toRatio.2 * y.toRatio.1)

end Binary64

end PipelineConsole
