import PipelineConsole.Json.Printer
import PipelineConsole.Json.Tree
import PipelineConsole.Text.Quoted
import PipelineConsole.Time.Reader

/-!
# Why a text cannot be read as a type

A text is either malformed, or it fits the grammar up to a place where its content does not fit the
type. A misfit has a cause and the path from the root to the value that does not fit.

## Main definitions

* `Json.Found`, `Json.Mismatch` — what stands there, and why it does not fit
* `Json.ReadError` — malformed, or a misfit with its path
* `Mismatch.message`, `ReadError.pathText` — the wording
-/

namespace PipelineConsole.Json

/-- The kind of value that stands where another was expected. -/
inductive Found where
  | null
  | bool (b : Bool)
  | int (n : Int)
  | float (x : Binary64)
  | string (s : String)
  | array
  | object
  deriving DecidableEq, Repr

/-- Why a value does not fit a type. -/
inductive Mismatch where
  | wrongKind (found : Found) (expected : String)
  | outOfRange (n : Int) (expected : String)
  | missingField (name : String)
  | duplicateField (name : String)
  | unknownVariant (name : String) (known : List String)
  | tooFew (count : Nat) (record : String) (size : Nat)
  | tooMany (count : Nat)
  | notSingle
  | timestamp (error : TimestampError)
  deriving DecidableEq, Repr

/-- A step from a value to one of its parts. -/
inductive Segment where
  | field (name : String)
  | item (index : Nat)
  deriving DecidableEq, Repr

/-- Why a text cannot be read as a type. -/
inductive ReadError where
  | malformed
  | mismatch (path : List Segment) (cause : Mismatch)
  deriving DecidableEq, Repr

/-- A name between backquotes. -/
def inBackquotes (s : String) : String := "`" ++ s ++ "`"

/-- The wording for a value that was found. -/
def Found.message : Found → String
  | .null => "null"
  | .bool b => "boolean " ++ inBackquotes (if b then "true" else "false")
  | .int n => "integer " ++ inBackquotes (.ofList (intChars n))
  | .float x => "floating point " ++ inBackquotes (x.text?.getD "")
  | .string s => "string " ++ Text.quoted s
  | .array => "sequence"
  | .object => "map"

/-- The known variants, listed as alternatives. -/
def alternatives (known : List String) : String :=
  match known with
  | [] => "there are no variants"
  | [a] => "expected " ++ inBackquotes a
  | [a, b] => "expected " ++ inBackquotes a ++ " or " ++ inBackquotes b
  | known => "expected one of " ++ String.intercalate ", " (known.map inBackquotes)

/-- The wording of a misfit. -/
def Mismatch.message : Mismatch → String
  | .wrongKind found expected => "invalid type: " ++ found.message ++ ", expected " ++ expected
  | .outOfRange n expected =>
    "invalid value: integer " ++ inBackquotes (.ofList (intChars n)) ++ ", expected " ++ expected
  | .missingField name => "missing field " ++ inBackquotes name
  | .duplicateField name => "duplicate field " ++ inBackquotes name
  | .unknownVariant name known =>
    "unknown variant " ++ inBackquotes name ++ ", " ++ alternatives known
  | .tooFew count record size =>
    "invalid length " ++ toString count ++ ", expected struct " ++ record ++ " with " ++
      toString size ++ (if size = 1 then " element" else " elements")
  | .tooMany count => "invalid length " ++ toString count ++ ", expected fewer elements in array"
  | .notSingle => "invalid value: map, expected map with a single key"
  | .timestamp error => error.message

/-- The text of a path: names after points, indices in brackets. -/
def pathText (path : List Segment) : String :=
  let part (first : Bool) : Segment → String
    | .field name => (if first then "" else ".") ++ name
    | .item index => "[" ++ toString index ++ "]"
  match path with
  | [] => ""
  | s :: rest => part true s ++ String.join (rest.map (part false))

/-- The error seen from one level further up. -/
def ReadError.under (segment : Segment) : ReadError → ReadError
  | .malformed => .malformed
  | .mismatch path cause => .mismatch (segment :: path) cause

/-- The wording of a misfit with its path in front, if the path is not empty. -/
def ReadError.located (path : List Segment) (cause : Mismatch) : String :=
  if path.isEmpty then cause.message else pathText path ++ ": " ++ cause.message

end PipelineConsole.Json
