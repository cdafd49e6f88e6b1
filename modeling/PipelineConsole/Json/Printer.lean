import PipelineConsole.Json.Value
import PipelineConsole.Number.Shortest
import PipelineConsole.Text.Utf8

/-!
# Writing JSON

Values are written without blanks, members in their order. In a string only the quote, the backslash
and the control characters below the space are escaped; five of the latter have short escapes.

## Main definitions

* `Value.chars`, `Value.text` — the written form
-/

namespace PipelineConsole.Json

/-- One character inside a written string. -/
def escapedChar (c : Char) : List Char :=
  if c = '"' then ['\\', '"']
  else if c = '\\' then ['\\', '\\']
  else if c = '\x08' then ['\\', 'b']
  else if c = '\t' then ['\\', 't']
  else if c = '\n' then ['\\', 'n']
  else if c = '\x0c' then ['\\', 'f']
  else if c = '\r' then ['\\', 'r']
  else if c.toNat < 0x20 then
    ['\\', 'u', '0', '0', Nat.digitChar (c.toNat / 16), Nat.digitChar (c.toNat % 16)]
  else [c]

/-- The written form of a string. -/
def stringChars (s : String) : List Char := '"' :: s.toList.flatMap escapedChar ++ ['"']

/-- The digits of an integer, with its sign. -/
def intChars (n : Int) : List Char :=
  (if n < 0 then ['-'] else []) ++ Nat.toDigits 10 n.natAbs

/-- The written form of a number. -/
def Number.chars : Number → List Char
  | .int n => intChars n
  | .float x =>
    match x.parts with
    | .finite negative m q => Binary64.finiteText negative m q
    | _ => ['n', 'u', 'l', 'l']

mutual

/-- The written form of a value. -/
def Value.chars : Value → List Char
  | .null => ['n', 'u', 'l', 'l']
  | .bool true => ['t', 'r', 'u', 'e']
  | .bool false => ['f', 'a', 'l', 's', 'e']
  | .number n => n.chars
  | .string s => stringChars s
  | .array items => '[' :: itemChars items ++ [']']
  | .object members => '\x7b' :: memberChars members ++ ['\x7d']

/-- The written form of the items of an array. -/
def itemChars : List Value → List Char
  | [] => []
  | [v] => v.chars
  | v :: rest => v.chars ++ ',' :: itemChars rest

/-- The written form of the members of an object. -/
def memberChars : List (String × Value) → List Char
  | [] => []
  | [(name, v)] => stringChars name ++ ':' :: v.chars
  | (name, v) :: rest => stringChars name ++ ':' :: v.chars ++ ',' :: memberChars rest

end

/-- The text of a value. -/
def Value.text (v : Value) : String := .ofList v.chars

end PipelineConsole.Json
