import PipelineConsole.Expression.Request
import PipelineConsole.Number.Decimal
import PipelineConsole.Text.Case

/-!
# Trying transforms

A transform is an expression: a call of a text function, a quoted text, a number, a truth value,
`nil`, or else the path of a field. Each transform is evaluated on the sample as it came in.

## Main definitions

* `Expr`, `Expr.ofChars` — expressions and their reader, which reads every text as some expression
* `Expr.eval` — the value on a sample
* `Transform.evalAll` — the values of some transforms, by output name
-/

namespace PipelineConsole

/-- A function on texts. -/
inductive TextFunction where
  | upper
  | lower
  | trim
  deriving DecidableEq, Repr

namespace TextFunction

/-- All functions, in the order in which they are tried. -/
def all : List TextFunction := [upper, lower, trim]

/-- The name of a function. -/
def name : TextFunction → String
  | upper => "upper"
  | lower => "lower"
  | trim => "trim"

/-- The value of a function. -/
def apply : TextFunction → String → String
  | upper => Text.toUpper
  | lower => Text.toLower
  | trim => Text.trim

end TextFunction

/-- An expression. A path keeps the text that it was read from. -/
inductive Expr where
  | call (f : TextFunction) (argument : Expr)
  | text (cs : List Char)
  | number (x : Binary64)
  | bool (b : Bool)
  | nil
  | path (cs : List Char)
  deriving DecidableEq, Repr

namespace Expr

/-- A list without a given start. -/
def withoutStart? : (start cs : List Char) → Option (List Char)
  | [], cs => some cs
  | _ :: _, [] => none
  | a :: start, c :: cs => if a = c then withoutStart? start cs else none

/-- A list without a given last character. -/
def withoutLast? (last : Char) (cs : List Char) : Option (List Char) :=
  match cs.reverse with
  | c :: rest => if c = last then some rest.reverse else none
  | [] => none

/-- The text of the argument, if the expression is a call of the function: its name, blanks and
something in parentheses. -/
def argument? (f : TextFunction) (cs : List Char) : Option (List Char) := do
  let rest ← withoutStart? f.name.toList cs
  let rest ← withoutStart? ['('] (Text.dropBlanks rest)
  withoutLast? ')' rest

/-- The first function that the expression is a call of, with the text of the argument. -/
def call? (cs : List Char) : Option (TextFunction × List Char) :=
  TextFunction.all.findSome? fun f => (argument? f cs).map (f, ·)

/-- The text between double quotes. -/
def quoted? (cs : List Char) : Option (List Char) := do
  withoutLast? '"' (← withoutStart? ['"'] cs)

theorem length_withoutStart? : ∀ {start cs rest : List Char},
    withoutStart? start cs = some rest → rest.length + start.length = cs.length
  | [], _, _, h => by cases h; rfl
  | _ :: _, [], _, h => by cases h
  | a :: start, c :: cs, rest, h => by
    rw [withoutStart?] at h
    split at h
    · have := length_withoutStart? h
      simp only [List.length_cons]
      omega
    · cases h

theorem length_withoutLast? {last : Char} {cs rest : List Char}
    (h : withoutLast? last cs = some rest) : rest.length + 1 = cs.length := by
  unfold withoutLast? at h
  split at h
  · next c r hr =>
    split at h
    · cases h
      have := congrArg List.length hr
      simp only [List.length_reverse, List.length_cons] at this ⊢
      omega
    · cases h
  · cases h

theorem length_dropBlanks_le (cs : List Char) : (Text.dropBlanks cs).length ≤ cs.length :=
  (List.dropWhile_sublist _).length_le

theorem length_trimmed_le (cs : List Char) : (Text.trimmed cs).length ≤ cs.length := by
  have h₁ := length_dropBlanks_le (Text.dropBlanks cs).reverse
  have h₂ := length_dropBlanks_le cs
  simp only [Text.trimmed, Text.dropBlanksEnd, List.length_reverse] at h₁ ⊢
  omega

theorem length_call? {cs a : List Char} {f : TextFunction} (h : call? cs = some (f, a)) :
    a.length < cs.length := by
  obtain ⟨g, -, hg⟩ := List.exists_of_findSome?_eq_some h
  obtain ⟨b, hb, hfb⟩ := Option.map_eq_some_iff.1 hg
  cases hfb
  simp only [argument?, Option.bind_eq_bind, Option.bind_eq_some_iff] at hb
  obtain ⟨r₁, h₁, r₂, h₂, h₃⟩ := hb
  have := length_withoutStart? h₁
  have := length_withoutStart? h₂
  have := length_withoutLast? h₃
  have := length_dropBlanks_le r₁
  omega

/-- Reads a text as an expression; blanks around it do not count. -/
def ofChars (text : List Char) : Expr :=
  let cs := Text.trimmed text
  -- A call is looked for first, since its argument may begin or end like anything else.
  match h : call? cs with
  | some (f, a) =>
    have : a.length < text.length :=
      Nat.lt_of_lt_of_le (length_call? h) (length_trimmed_le text)
    .call f (ofChars a)
  | none =>
    match quoted? cs with
    | some inner => .text inner
    | none =>
      match Number.readDouble? cs with
      | some x => .number x
      | none =>
        if cs = "true".toList then .bool true
        else if cs = "false".toList then .bool false
        else if cs = "nil".toList then .nil
        else .path cs
termination_by text.length

/-- The value found by following names through nested objects. -/
def follow? : Json.Value → List (List Char) → Option Json.Value
  | v, [] => some v
  | v, name :: rest => do follow? (← v.get? (.ofList name)) rest

/-- The value at a path of a sample: names parted by points. -/
def lookup? (sample : Json.Value) (path : List Char) : Option Json.Value :=
  follow? sample (Text.pieces '.' path)

end Expr

/-- Why a transform has no value. -/
inductive TransformError where
  | notText (f : TextFunction) (value : Json.Value)
  | unknown (expression : String)
  | sampleNotObject

/-- The wording of an error. -/
def TransformError.message : TransformError → String
  | .notText f value => f.name ++ "() expects a string, got " ++ value.text
  | .unknown expression => "unknown field or unsupported expression: " ++ expression
  | .sampleNotObject => "sample must be a JSON object"

/-- The value of a function: nothing stays nothing, and only texts have another. -/
def TextFunction.eval (f : TextFunction) : Json.Value → Except TransformError Json.Value
  | .string s => .ok (.string (f.apply s))
  | .null => .ok .null
  | v => .error (.notText f v)

/-- The value of an expression on a sample. -/
def Expr.eval (sample : Json.Value) : Expr → Except TransformError Json.Value
  | .call f argument => do f.eval (← argument.eval sample)
  | .text cs => .ok (.string (.ofList cs))
  | .number x => .ok (.double x)
  | .bool b => .ok (.bool b)
  | .nil => .ok .null
  | .path cs =>
    match lookup? sample cs with
    | some v => .ok v
    | none => .error (.unknown (.ofList cs))

namespace Transform

/-- Evaluates transforms in order and collects their values in a sorted object. -/
def evalInto (sample : Json.Value) :
    (soFar : List (String × Json.Value)) → List Transform →
      Except TransformError (List (String × Json.Value))
  | soFar, [] => .ok soFar
  | soFar, t :: rest => do
    let v ← (Expr.ofChars t.expression.toList).eval sample
    evalInto sample (Json.Value.insertMember t.outputName v soFar) rest

/-- The values of some transforms on a sample, by output name; of transforms with one name the last
counts. -/
def evalAll (transforms : List Transform) (sample : Json.Value) :
    Except TransformError Json.Value :=
  if sample.isObject then (evalInto sample [] transforms).map .object
  else .error .sampleNotObject

end Transform

end PipelineConsole
