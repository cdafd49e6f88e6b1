import PipelineConsole.Json.Numeral
import PipelineConsole.Text.Utf8

/-!
# The tokens of a JSON text

A text is cut into tokens by a machine that takes one octet at a time. The token list ends with
`Token.fault` at the first octet that no token can start or continue with, or when the text stops
inside a token.

A string whose octets or escapes do not spell a text, and a number beyond the doubles, are still
tokens: they are no fault as long as nobody asks for their content.

## Main definitions

* `Json.Token` — tokens
* `Json.Scan`, `Scan.step`, `Scan.finish` — the machine
* `Json.tokens` — the tokens of an octet string
-/

namespace PipelineConsole.Json

/-- A token of a text; the content of a string or number is absent when it cannot be read. -/
inductive Token where
  | null
  | bool (b : Bool)
  | number (n : Option Number)
  | string (s : Option String)
  | comma
  | colon
  | openArray
  | closeArray
  | openObject
  | closeObject
  | fault
  deriving DecidableEq, Repr

/-- A piece of a string: an octet as it stands, or the UTF-16 unit of an escape. -/
inductive Piece where
  | octet (b : UInt8)
  | unit (u : Nat)
  deriving DecidableEq, Repr

/-- The octets that the pieces of a string stand for. A high surrogate must be followed by a low
one, which must not stand alone. -/
def pieceOctets? : List Piece → Option Text.Utf8.Bytes
  | [] => some []
  | .octet b :: rest => (pieceOctets? rest).map (b :: ·)
  | .unit u :: .unit v :: rest =>
    if 0xD800 ≤ u ∧ u < 0xDC00 then
      if 0xDC00 ≤ v ∧ v < 0xE000 then
        (pieceOctets? rest).map
          (String.utf8EncodeChar (.ofNat (0x10000 + (u - 0xD800) * 0x400 + (v - 0xDC00))) ++ ·)
      else none
    else if 0xDC00 ≤ u ∧ u < 0xE000 then none
    else (pieceOctets? (.unit v :: rest)).map (String.utf8EncodeChar (.ofNat u) ++ ·)
  | .unit u :: rest =>
    if 0xD800 ≤ u ∧ u < 0xE000 then none
    else (pieceOctets? rest).map (String.utf8EncodeChar (.ofNat u) ++ ·)

/-- The text that the pieces of a string spell. -/
def pieceText? (pieces : List Piece) : Option String := pieceOctets? pieces >>= Text.Utf8.decode?

/-- Where the machine stands inside a number literal. -/
inductive NumeralPart where
  | sign
  | zero
  | whole
  | point
  | fraction
  | exponentMark
  | exponentSign
  | exponentDigits
  deriving DecidableEq, Repr

/-- Whether a literal may end here. -/
def NumeralPart.isComplete : NumeralPart → Bool
  | .zero | .whole | .fraction | .exponentDigits => true
  | _ => false

/-- The state of the machine. The pieces of a string and the digits of a literal are kept last
first. -/
inductive Scan where
  | between
  | word (rest : Text.Utf8.Bytes) (token : Token)
  | inString (pieces : List Piece)
  | inEscape (pieces : List Piece)
  | inUnit (pieces : List Piece) (value : Nat) (more : Nat)
  | inNumeral (part : NumeralPart) (numeral : Numeral)
  | stopped
  deriving Repr

/-- A literal with its digits in reading order. -/
def Numeral.inOrder (n : Numeral) : Numeral :=
  { n with
    whole := n.whole.reverse
    fraction := n.fraction.map List.reverse
    exponent := n.exponent.map fun e => (e.1, e.2.reverse) }

namespace Scan

/-- The value of a hexadecimal digit. -/
def hexValue? (b : UInt8) : Option Nat :=
  let n := b.toNat
  if 0x30 ≤ n && n ≤ 0x39 then some (n - 0x30)
  else if 0x41 ≤ n && n ≤ 0x46 then some (n - 0x37)
  else if 0x61 ≤ n && n ≤ 0x66 then some (n - 0x57)
  else none

/-- Stops at a fault. -/
def fail : Scan × List Token := (.stopped, [.fault])

/-- Whether an octet is a decimal digit. -/
def isDigit (b : UInt8) : Bool := 0x30 ≤ b && b ≤ 0x39

/-- Reads an octet between tokens. -/
def start (b : UInt8) : Scan × List Token :=
  match b with
  | 0x20 | 0x09 | 0x0A | 0x0D => (.between, [])
  | 0x22 => (.inString [], [])
  | 0x2C => (.between, [.comma])
  | 0x3A => (.between, [.colon])
  | 0x5B => (.between, [.openArray])
  | 0x5D => (.between, [.closeArray])
  | 0x7B => (.between, [.openObject])
  | 0x7D => (.between, [.closeObject])
  | 0x6E => (.word [0x75, 0x6C, 0x6C] .null, [])
  | 0x74 => (.word [0x72, 0x75, 0x65] (.bool true), [])
  | 0x66 => (.word [0x61, 0x6C, 0x73, 0x65] (.bool false), [])
  | 0x2D => (.inNumeral .sign ⟨true, [], none, none⟩, [])
  | 0x30 => (.inNumeral .zero ⟨false, [0], none, none⟩, [])
  | b =>
    if isDigit b then (.inNumeral .whole ⟨false, [b.toNat - 0x30], none, none⟩, []) else fail

/-- Reads the octet after a backslash. -/
def escape (pieces : List Piece) (b : UInt8) : Scan × List Token :=
  match b with
  | 0x22 | 0x5C | 0x2F => (.inString (.octet b :: pieces), [])
  | 0x62 => (.inString (.octet 0x08 :: pieces), [])
  | 0x66 => (.inString (.octet 0x0C :: pieces), [])
  | 0x6E => (.inString (.octet 0x0A :: pieces), [])
  | 0x72 => (.inString (.octet 0x0D :: pieces), [])
  | 0x74 => (.inString (.octet 0x09 :: pieces), [])
  | 0x75 => (.inUnit pieces 0 3, [])
  | _ => fail

/-- The literal with the octet `b` appended in its part, if it may stand there. -/
def extend (part : NumeralPart) (n : Numeral) (b : UInt8) : Option (NumeralPart × Numeral) :=
  let digit := b.toNat - 0x30
  let inFraction : Numeral := { n with fraction := some (digit :: n.fraction.getD []) }
  let inExponent : Numeral :=
    { n with exponent := n.exponent.map fun e => (e.1, digit :: e.2) }
  let mark : Numeral := { n with exponent := some (false, []) }
  match part with
  | .sign =>
    if b = 0x30 then some (.zero, { n with whole := [0] })
    else if isDigit b then some (.whole, { n with whole := [digit] })
    else none
  | .zero =>
    if b = 0x2E then some (.point, { n with fraction := some [] })
    else if b = 0x65 ∨ b = 0x45 then some (.exponentMark, mark)
    else none
  | .whole =>
    if isDigit b then some (.whole, { n with whole := digit :: n.whole })
    else if b = 0x2E then some (.point, { n with fraction := some [] })
    else if b = 0x65 ∨ b = 0x45 then some (.exponentMark, mark)
    else none
  | .point => if isDigit b then some (.fraction, inFraction) else none
  | .fraction =>
    if isDigit b then some (.fraction, inFraction)
    else if b = 0x65 ∨ b = 0x45 then some (.exponentMark, mark)
    else none
  | .exponentMark =>
    if b = 0x2B then some (.exponentSign, n)
    else if b = 0x2D then some (.exponentSign, { n with exponent := some (true, []) })
    else if isDigit b then some (.exponentDigits, inExponent)
    else none
  | .exponentSign | .exponentDigits =>
    if isDigit b then some (.exponentDigits, inExponent) else none

/-- Reads an octet inside or behind a literal. A zero is not followed by a digit. -/
def numeral (part : NumeralPart) (n : Numeral) (b : UInt8) : Scan × List Token :=
  match extend part n b with
  | some (part, n) => (.inNumeral part n, [])
  | none =>
    if part.isComplete && !(part = .zero && isDigit b) then
      -- The octet that ends the literal belongs to what comes next.
      let (next, out) := start b
      (next, .number n.inOrder.number? :: out)
    else fail

/-- Reads one octet. -/
def step (state : Scan) (b : UInt8) : Scan × List Token :=
  match state with
  | .between => start b
  | .word [] _ => fail
  | .word [w] token => if b = w then (.between, [token]) else fail
  | .word (w :: rest) token => if b = w then (.word rest token, []) else fail
  | .inString pieces =>
    if b = 0x22 then (.between, [.string (pieceText? pieces.reverse)])
    else if b = 0x5C then (.inEscape pieces, [])
    else if b < 0x20 then fail
    else (.inString (.octet b :: pieces), [])
  | .inEscape pieces => escape pieces b
  | .inUnit pieces value more =>
    match hexValue? b with
    | none => fail
    | some d =>
      match more with
      | 0 => (.inString (.unit (value * 16 + d) :: pieces), [])
      | more + 1 => (.inUnit pieces (value * 16 + d) more, [])
  | .inNumeral part n => numeral part n b
  | .stopped => (.stopped, [])

/-- The tokens that the end of the text completes. -/
def finish : Scan → List Token
  | .between | .stopped => []
  | .inNumeral part n => if part.isComplete then [.number n.inOrder.number?] else [.fault]
  | _ => [.fault]

/-- The tokens of the octets that follow a state. -/
def run : Scan → Text.Utf8.Bytes → List Token
  | state, [] => state.finish
  | state, b :: rest =>
    let (next, out) := step state b
    out ++ run next rest

end Scan

/-- The tokens of an octet string. -/
def tokens (bytes : Text.Utf8.Bytes) : List Token := Scan.run .between bytes

end PipelineConsole.Json
