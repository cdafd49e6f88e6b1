import PipelineConsole.Text.Printable

/-!
# Quoted texts in messages

Messages show a text between double quotes. A quote and a backslash are escaped, tab, line feed,
carriage return and NUL have short escapes, and every character that is not printable or merges with
its neighbour is shown by its code point in lower-case hexadecimal.

## Main definitions

* `Text.quoted` — the quoted form of a text
-/

namespace PipelineConsole.Text

/-- The lower-case hexadecimal digits of a number. -/
def hexLower (n : Nat) : List Char := Nat.toDigits 16 n

/-- One character inside a quoted text. -/
def quotedChar (c : Char) : List Char :=
  if c = '\x00' then ['\\', '0']
  else if c = '\t' then ['\\', 't']
  else if c = '\r' then ['\\', 'r']
  else if c = '\n' then ['\\', 'n']
  else if c = '"' then ['\\', '"']
  else if c = '\\' then ['\\', '\\']
  else if isPrintable c && !isExtending c then [c]
  else ['\\', 'u', '\x7b'] ++ hexLower c.toNat ++ ['\x7d']

/-- A text between double quotes, with escapes. -/
def quoted (s : String) : String := .ofList ('"' :: s.toList.flatMap quotedChar ++ ['"'])

end PipelineConsole.Text
