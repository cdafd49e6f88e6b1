import PipelineConsole.Number.Binary64

/-!
# The shortest decimal that reads back

A finite double is written with the fewest significant digits that still round to it. Of the
decimals with that many digits the nearest is taken, and of two equally near the even one. For each
number of digits only the two neighbours of the value on the decimal grid need a test: when any
point of the grid rounds to the double, one of these does.

## Main definitions

* `Binary64.Magnitude` — a positive double with the interval of reals that round to it
* `Binary64.shortest` — the digits and the exponent of the shortest decimal
* `Binary64.text` — the printed form
-/

namespace PipelineConsole.Binary64

/-- A positive finite double as `value · num / den` and the interval of multiples of `num / den`
that round to it, with its ends when `closed`. -/
structure Magnitude where
  value : Nat
  low : Nat
  high : Nat
  num : Nat
  den : Nat
  closed : Bool

/-- The interval around `m · 2^q`, in quarters of the unit in the last place. The unit below a power
of two is half as large. -/
def Magnitude.of (m : Nat) (q : Int) : Magnitude :=
  { value := 4 * m
    low := if m = Nat.pow 2 52 && -1074 < q then 4 * m - 1 else 4 * m - 2
    high := 4 * m + 2
    num := Nat.pow 2 (q - 2).toNat
    den := Nat.pow 2 (2 - q).toNat
    closed := m % 2 = 0 }

/-- Whether `digits · 10^exponent` rounds to the double. -/
def Magnitude.holds (x : Magnitude) (digits : Nat) (exponent : Int) : Bool :=
  let point := digits * Nat.pow 10 exponent.toNat * x.den
  let unit := x.num * Nat.pow 10 (-exponent).toNat
  if x.closed then x.low * unit ≤ point && point ≤ x.high * unit
  else x.low * unit < point && point < x.high * unit

/-- The least `e` in a window around the estimate with `value < 10^e`. -/
def Magnitude.decimalExponent (x : Magnitude) : Int :=
  let log : Int := (x.value * x.num).log2 - x.den.log2
  -- The decimal logarithm of two is a little less than 0.30103.
  let estimate := Int.fdiv (log * 30103) 100000
  let below (e : Int) : Bool :=
    x.value * x.num * Nat.pow 10 (-e).toNat < Nat.pow 10 e.toNat * x.den
  if below (estimate - 1) then estimate - 1
  else if below estimate then estimate
  else if below (estimate + 1) then estimate + 1
  else estimate + 2

/-- The decimal with `count` digits that rounds to the double and is nearest to it, if there is one;
`e` is the decimal exponent of the value. -/
def Magnitude.onGrid (x : Magnitude) (e : Int) (count : Nat) : Option (Nat × Int) :=
  let k := e - count
  let num := x.value * x.num * Nat.pow 10 (-k).toNat
  let den := x.den * Nat.pow 10 k.toNat
  let floor := num / den
  let near := Number.roundDiv num den
  -- The interval of a power of two is narrower below, so the nearer neighbour may lie outside.
  let far := if near = floor then floor + 1 else floor
  if x.holds near k then some (near, k)
  else if x.holds far k then some (far, k)
  else none

/-- A decimal without trailing zeros among its digits; `fuel` bounds their number. -/
def dropZeros : (fuel digits : Nat) → (exponent : Int) → Nat × Int
  | 0, digits, exponent => (digits, exponent)
  | fuel + 1, digits, exponent =>
    if digits % 10 = 0 && digits ≠ 0 then dropZeros fuel (digits / 10) (exponent + 1)
    else (digits, exponent)

/-- The shortest decimal `digits · 10^exponent` that rounds to `m · 2^q`; seventeen digits always
suffice. -/
def shortest (m : Nat) (q : Int) : Nat × Int :=
  let x := Magnitude.of m q
  let e := x.decimalExponent
  let (digits, exponent) :=
    ((List.range 17).findSome? fun n => x.onGrid e (n + 1)).getD (m, q)
  dropZeros 20 digits exponent

/-- Which decimals are written positionally, by the number of digits before the point: from `1e-5`
up to below `1e16`. -/
def isPositional (pointAfter : Int) : Bool := -4 ≤ pointAfter && pointAfter ≤ 16

/-- A list of zeros. -/
def zeros (n : Nat) : List Char := List.replicate n '0'

/-- The text of a decimal: positional, always with a point, or with a signed exponent. -/
def decimalText (digits : Nat) (exponent : Int) : List Char :=
  let ds := Nat.toDigits 10 digits
  let pointAfter := exponent + ds.length
  if isPositional pointAfter then
    if pointAfter ≤ 0 then ['0', '.'] ++ zeros (-pointAfter).toNat ++ ds
    else if 0 ≤ exponent then ds ++ zeros exponent.toNat ++ ['.', '0']
    else ds.take pointAfter.toNat ++ ['.'] ++ ds.drop pointAfter.toNat
  else
    let power := pointAfter - 1
    ds.take 1 ++ (if ds.length = 1 then [] else '.' :: ds.drop 1) ++ ['e']
      ++ [if power < 0 then '-' else '+'] ++ Nat.toDigits 10 power.natAbs

/-- The text of a finite double, from its sign, significand and exponent. -/
def finiteText (negative : Bool) (m : Nat) (q : Int) : List Char :=
  (if negative then ['-'] else []) ++
    if m = 0 then ['0', '.', '0']
    else
      let (digits, exponent) := shortest m q
      decimalText digits exponent

/-- The printed form of a double; there is none for an infinity or a NaN. -/
def text? (x : Binary64) : Option String :=
  match x.parts with
  | .finite negative m q => some (.ofList (finiteText negative m q))
  | _ => none

end PipelineConsole.Binary64
