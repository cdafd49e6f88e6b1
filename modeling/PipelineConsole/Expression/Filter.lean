import PipelineConsole.Expression.Request
import PipelineConsole.Text.Alphabet

/-!
# Checking filters

A filter is checked for its form only: quoted literals are closed, parentheses match, and every name
is a field or a keyword. The filter is cut into tokens by a machine that takes one character at a
time.

## Main definitions

* `Filter.Token`, `Filter.tokens?` — tokens; there are none when a literal is not closed
* `Filter.isBalanced` — parentheses match
* `FilterError`, `Filter.check` — the check
-/

namespace PipelineConsole

namespace Filter

/-- A token of a filter. -/
inductive Token where
  | name (cs : List Char)
  | literal
  | openParen
  | closeParen
  | other
  deriving DecidableEq, Repr

/-- Where the machine stands. The characters of a name are kept last first. -/
inductive Scan where
  | between
  | inLiteral (quote : Char)
  | inNumber
  | inName (cs : List Char)
  deriving DecidableEq, Repr

/-- A character that may start a name. -/
def startsName (c : Char) : Bool := Text.isLetter c || c = '_'

/-- A character that may continue a name. -/
def continuesName (c : Char) : Bool := Text.isLetterOrNumeral c || c = '_' || c = '.'

/-- Reads a character between tokens. -/
def Scan.start (c : Char) : Scan × List Token :=
  if Text.isBlank c then (.between, [])
  else if c = '(' then (.between, [.openParen])
  else if c = ')' then (.between, [.closeParen])
  else if c = '"' ∨ c = '\'' then (.inLiteral c, [])
  else if c.isDigit then (.inNumber, [])
  else if startsName c then (.inName [c], [])
  else (.between, [.other])

/-- Reads a character. One that cannot continue a number or a name ends it and starts anew. -/
def Scan.step (state : Scan) (c : Char) : Scan × List Token :=
  match state with
  | .between => start c
  | .inLiteral quote => if c = quote then (.between, [.literal]) else (.inLiteral quote, [])
  | .inNumber =>
    if c.isDigit || c = '.' then (.inNumber, [])
    else
      let (next, out) := start c
      (next, .literal :: out)
  | .inName cs =>
    if continuesName c then (.inName (c :: cs), [])
    else
      let (next, out) := start c
      (next, .name cs.reverse :: out)

/-- The tokens that the end of the filter completes; there are none inside a literal. -/
def Scan.finish? : Scan → Option (List Token)
  | .between => some []
  | .inLiteral _ => none
  | .inNumber => some [.literal]
  | .inName cs => some [.name cs.reverse]

/-- The tokens of the characters that follow a state. -/
def Scan.run? : Scan → List Char → Option (List Token)
  | state, [] => state.finish?
  | state, c :: rest =>
    let (next, out) := state.step c
    (run? next rest).map (out ++ ·)

/-- The tokens of a filter, if its literals are closed. -/
def tokens? (cs : List Char) : Option (List Token) := Scan.run? .between cs

/-- Whether parentheses match, `depth` of them being open. -/
def balancedFrom : (depth : Nat) → List Token → Bool
  | depth, [] => depth = 0
  | depth, .openParen :: rest => balancedFrom (depth + 1) rest
  | 0, .closeParen :: _ => false
  | depth + 1, .closeParen :: rest => balancedFrom depth rest
  | depth, _ :: rest => balancedFrom depth rest

/-- Whether parentheses match. -/
def isBalanced (ts : List Token) : Bool := balancedFrom 0 ts

/-- Names that are no fields. -/
def keywords : List String :=
  ["and", "or", "not", "in", "true", "false", "nil", "matches", "contains", "startsWith",
    "endsWith", "len", "upper", "lower", "trim"]

/-- The part of a name before its first point. -/
def root (cs : List Char) : List Char := cs.takeWhile (· ≠ '.')

/-- Whether a name is a field, belongs to a field or belongs to a keyword. -/
def isKnown (fields : List FieldSpec) (cs : List Char) : Bool :=
  keywords.any (fun k => k.toList = root cs) ||
    fields.any fun f => f.name.toList = cs || f.name.toList = root cs

/-- The first name that is not known. -/
def unknown? (fields : List FieldSpec) : List Token → Option (List Char)
  | [] => none
  | .name cs :: rest => if isKnown fields cs then unknown? fields rest else some cs
  | _ :: rest => unknown? fields rest

end Filter

/-- What is wrong with a filter. -/
inductive FilterError where
  | blank
  | openLiteral
  | unbalanced
  | unknownField (name : String)
  deriving DecidableEq, Repr

/-- The wording of an error. -/
def FilterError.message : FilterError → String
  | .blank => "expression must not be empty"
  | .openLiteral => "unterminated string literal"
  | .unbalanced => "unbalanced parentheses"
  | .unknownField name => "unknown field: " ++ name

/-- Checks a filter. Names are checked only when some fields are known. -/
def Filter.check (expression : String) (fields : List FieldSpec) : Except FilterError Unit :=
  if Text.isBlankText expression then .error .blank
  else
    match tokens? expression.toList with
    | none => .error .openLiteral
    | some ts =>
      if !isBalanced ts then .error .unbalanced
      else if fields.isEmpty then .ok ()
      else
        match unknown? fields ts with
        | some name => .error (.unknownField (.ofList name))
        | none => .ok ()

end PipelineConsole
