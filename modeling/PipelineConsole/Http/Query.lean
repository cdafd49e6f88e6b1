import PipelineConsole.Http.Percent
import PipelineConsole.Number.Decimal
import PipelineConsole.Text.Blank

/-!
# Query strings

A query string is a list of pairs of a name and a value. A plus sign stands for a space and other
octets may be percent-encoded. A query that is read for known parameters may name each of them once;
names that are not known are skipped.

## Main definitions

* `Query.pairs`, `Query.write` — the pairs of a query string and its written form
* `Query.Kind`, `Query.Parameter` — what parameters hold
* `Query.read` — the parameters of a query string
* `QueryError` — why a query string cannot be read
-/

namespace PipelineConsole.Http

/-- Why a query string cannot be read. -/
inductive QueryError where
  | duplicate (name : String)
  | notFlag
  | notCount (cause : Number.UnsignedError)
  deriving DecidableEq, Repr

/-- The wording of an error. -/
def QueryError.message : QueryError → String
  | .duplicate name => "duplicate field `" ++ name ++ "`"
  | .notFlag => "provided string was not `true` or `false`"
  | .notCount cause => cause.message

namespace Query

open Text.Utf8 (Bytes)

/-- The text of a name or a value. Octets that are no text are replaced. -/
def component (bytes : Bytes) : String :=
  Text.Utf8.decodeLenient (Percent.decode (bytes.map fun b => if b = 0x2B then 0x20 else b))

/-- A pair; without an equals sign the value is empty. -/
def pair (bytes : Bytes) : String × String :=
  (component (bytes.takeWhile (· ≠ 0x3D)), component ((bytes.dropWhile (· ≠ 0x3D)).drop 1))

/-- The pairs of a query string. -/
def pairs (query : String) : List (String × String) :=
  ((Text.pieces 0x26 (Text.Utf8.encode query)).filter fun p => !p.isEmpty).map pair

/-- The octets that stand for themselves in a written query. -/
def isPlain (b : UInt8) : Bool :=
  (0x30 ≤ b && b ≤ 0x39) || (0x41 ≤ b && b ≤ 0x5A) || (0x61 ≤ b && b ≤ 0x7A) || b == 0x2A ||
    b == 0x2D || b == 0x2E || b == 0x5F

/-- A name or a value in its written form. -/
def writeComponent (s : String) : List Char :=
  (Text.Utf8.encode s).flatMap fun b =>
    if b = 0x20 then ['+'] else if isPlain b then [Char.ofNat b.toNat] else Percent.encodeByte b

/-- A pair in its written form. -/
def writePair (p : String × String) : String :=
  .ofList (writeComponent p.1 ++ '=' :: writeComponent p.2)

/-- The written form of some pairs. -/
def write (ps : List (String × String)) : String := String.intercalate "&" (ps.map writePair)

/-- What a parameter may hold. -/
inductive Kind where
  | text
  | flag
  | count
  deriving DecidableEq, Repr

/-- What a parameter holds. -/
inductive Parameter where
  | text (s : String)
  | flag (b : Bool)
  | count (n : UInt64)
  deriving DecidableEq, Repr

/-- Reads the value of a parameter. -/
def readValue (kind : Kind) (value : String) : Except QueryError Parameter :=
  match kind with
  | .text => .ok (.text value)
  | .flag =>
    if value = "true" then .ok (.flag true)
    else if value = "false" then .ok (.flag false)
    else .error .notFlag
  | .count =>
    match Number.readUnsigned UInt64.size value with
    | .ok n => .ok (.count (.ofNat n))
    | .error e => .error (.notCount e)

/-- Reads the parameters from pairs, in order. A second value of a parameter is refused before it is
looked at. -/
def readPairs (known : List (String × Kind)) (soFar : List (String × Parameter)) :
    List (String × String) → Except QueryError (List (String × Parameter))
  | [] => .ok soFar
  | (name, value) :: rest =>
    match known.lookup name with
    | none => readPairs known soFar rest
    | some kind =>
      if (soFar.lookup name).isSome then .error (.duplicate name)
      else
        match readValue kind value with
        | .ok p => readPairs known ((name, p) :: soFar) rest
        | .error e => .error e

/-- The parameters of a query string. -/
def read (known : List (String × Kind)) (query : String) :
    Except QueryError (List (String × Parameter)) :=
  readPairs known [] (pairs query)

/-- The text of a parameter, if it is there. -/
def text? (ps : List (String × Parameter)) (name : String) : Option String :=
  match ps.lookup name with
  | some (.text s) => some s
  | _ => none

/-- The truth value of a parameter, if it is there. -/
def flag? (ps : List (String × Parameter)) (name : String) : Option Bool :=
  match ps.lookup name with
  | some (.flag b) => some b
  | _ => none

/-- The number of a parameter, if it is there. -/
def count? (ps : List (String × Parameter)) (name : String) : Option UInt64 :=
  match ps.lookup name with
  | some (.count n) => some n
  | _ => none

end Query

end PipelineConsole.Http
