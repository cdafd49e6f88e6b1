import PipelineConsole.Number.Binary64

/-!
# Reading decimals

Unsigned numbers within a bound, and decimals as the nearest double.

## Main definitions

* `Number.UnsignedError`, `Number.readUnsigned` — unsigned numbers and why a text is none
* `Number.readDouble?` — decimals, with or without exponent, and the words for the other doubles
-/

namespace PipelineConsole.Number

/-- Why a text is no unsigned number within its bound. -/
inductive UnsignedError where
  | empty
  | invalidDigit
  | tooLarge
  deriving DecidableEq, Repr

/-- The wording of an error. -/
def UnsignedError.message : UnsignedError → String
  | .empty => "cannot parse integer from empty string"
  | .invalidDigit => "invalid digit found in string"
  | .tooLarge => "number too large to fit in target type"

/-- Appends the digits of a list to a number. A wrong digit and an excess are told by whichever
comes first; a digit that is wrong is not looked at for excess. -/
def appendDigits (bound : Nat) : (soFar : Nat) → List Char → Except UnsignedError Nat
  | n, [] => .ok n
  | n, c :: rest =>
    if !c.isDigit then .error .invalidDigit
    else
      let m := n * 10 + (c.toNat - 0x30)
      if m < bound then appendDigits bound m rest else .error .tooLarge

/-- Reads a number below a bound: digits, with a plus sign in front or not. -/
def readUnsigned (bound : Nat) (s : String) : Except UnsignedError Nat :=
  match s.toList with
  | [] => .error .empty
  | ['+'] => .error .invalidDigit
  | '+' :: rest => appendDigits bound 0 rest
  | cs => appendDigits bound 0 cs

/-- The number spelled by a list of digits. -/
def ofDigits (ds : List Char) : Nat := ds.foldl (fun n d => n * 10 + (d.toNat - 0x30)) 0

/-- Reads an exponent, which must end the text: an optional sign and digits. -/
def readExponent? (cs : List Char) : Option Int :=
  let (negative, ds) :=
    match cs with
    | '-' :: rest => (true, rest)
    | '+' :: rest => (false, rest)
    | cs => (false, cs)
  if !ds.isEmpty && ds.all Char.isDigit then
    let n : Int := ofDigits ds
    some (if negative then -n else n)
  else none

/-- Reads an unsigned decimal: digits with a point before, behind or between them or not at all, and
possibly an exponent. -/
def readDecimal? (negative : Bool) (cs : List Char) : Option Binary64 :=
  let whole := cs.takeWhile Char.isDigit
  let rest := cs.drop whole.length
  let (fraction, rest) :=
    match rest with
    | '.' :: rest => (rest.takeWhile Char.isDigit, rest.dropWhile Char.isDigit)
    | rest => ([], rest)
  if whole.isEmpty && fraction.isEmpty then none
  else
    let value (exponent : Int) :=
      Binary64.ofDecimal negative (ofDigits (whole ++ fraction)) (exponent - fraction.length)
    match rest with
    | [] => some (value 0)
    | c :: rest => if c = 'e' ∨ c = 'E' then (readExponent? rest).map value else none

/-- The bits of the NaN that the word for it stands for. -/
def nanBits : Nat := 0x7FF8 * Nat.pow 2 48

/-- Reads an unsigned double: a decimal, or a word for infinity or for no number, in any case. -/
def readMagnitude? (negative : Bool) (cs : List Char) : Option Binary64 :=
  let word := String.ofList (cs.map Char.toLower)
  if word = "inf" ∨ word = "infinity" then some (.ofMagnitude negative Binary64.infinityBits)
  else if word = "nan" then some ⟨.ofNat nanBits⟩
  else readDecimal? negative cs

/-- Reads a text as the double nearest to what it spells. -/
def readDouble? (cs : List Char) : Option Binary64 :=
  match cs with
  | '-' :: rest => readMagnitude? true rest
  | '+' :: rest => readMagnitude? false rest
  | cs => readMagnitude? false cs

end PipelineConsole.Number
