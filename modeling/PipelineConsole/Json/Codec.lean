import PipelineConsole.Json.ReadError

/-!
# Codecs

A codec reads values of a type from the trees of JSON texts and writes them as JSON values. Reading
follows the order of the text and stops at the first fault or misfit. It counts the levels of
nesting that are still allowed: opening an array or object on the last level is a fault.

A tree may also be that of a JSON value. Such a tree is there as a whole before it is read, so that
there are no faults in it, and any nesting is allowed.

## Main definitions

* `Json.Codec`, `Json.Source` — a reader and a writer, and where the trees come from
* `Codec.text`, `Codec.bool`, `Codec.uint16`, `Codec.uint64`, `Codec.count`, `Codec.timestamp`,
  `Codec.opaqueValue` — basic types
* `Codec.option`, `Codec.list`, `Codec.table`, `Codec.variants` — built from other codecs
* `Codec.read`, `Codec.readFirst` — reading an octet string as a whole, or up to the end of its
  first value
* `Codec.readValue` — reading a JSON value
-/

namespace PipelineConsole.Json

/-- The result of reading. -/
abbrev Reads := Except ReadError

/-- Where a tree comes from: from a text, in which some levels of nesting are still allowed, or from
a value. -/
inductive Source where
  | text (levels : Nat)
  | value
  deriving DecidableEq, Repr

/-- A reader, which is told where the tree comes from, and a writer. -/
structure Codec (α : Type) where
  decode : Source → Tree → Reads α
  encode : α → Value

/-- The greatest depth of nesting that is read from a text. -/
def maxDepth : Nat := 127

/-- A misfit at the value itself. -/
def misfit {α : Type} (cause : Mismatch) : Reads α := .error (.mismatch [] cause)

/-- The kind of the value at the root, unless the text is malformed there. -/
def Tree.found? : Tree → Option Found
  | .fault => none
  | .null => some .null
  | .bool b => some (.bool b)
  | .number n => n.map fun
    | .int n => .int n
    | .float x => .float x
  | .string s => s.map .string
  | .array .. => some .array
  | .object .. => some .object

/-- The error of a value that is not of the expected kind. -/
def wrongKind {α : Type} (t : Tree) (expected : String) : Reads α :=
  match t.found? with
  | some found => misfit (.wrongKind found expected)
  | none => .error .malformed

/-- Opens an array or object of a text: one level less is left. -/
def descend : Source → Reads Source
  | .text 0 => .error .malformed
  | .text (levels + 1) => .ok (.text levels)
  | .value => .ok .value

/-- Refuses an array or object that does not end with its bracket. -/
def ended (ending : Ending) : Reads Unit :=
  if ending = .closed then .ok () else .error .malformed

mutual

/-- A tree as an opaque value. Objects are sorted by name, and of members of one name the last
stays. -/
def Tree.value? (source : Source) : Tree → Option Value
  | .fault => none
  | .null => some .null
  | .bool b => some (.bool b)
  | .number n => n.map .number
  | .string s => s.map .string
  | .array items ending =>
    match descend source with
    | .error _ => none
    | .ok inner => if ending = .closed then (itemValues? inner items).map .array else none
  | .object members ending =>
    match descend source with
    | .error _ => none
    | .ok inner => if ending = .closed then (memberValues? inner members).map .ofMembers else none

/-- The items of an array as opaque values. -/
def itemValues? (source : Source) : List Tree → Option (List Value)
  | [] => some []
  | t :: rest => do return (← t.value? source) :: (← itemValues? source rest)

/-- The members of an object as opaque values. -/
def memberValues? (source : Source) :
    List (Option String × Tree) → Option (List (String × Value))
  | [] => some []
  | (name, t) :: rest => do return (← name, ← t.value? source) :: (← memberValues? source rest)

end

namespace Codec

variable {α β : Type}

/-- A text. -/
def text : Codec String where
  decode _ t :=
    match t with
    | .string (some s) => .ok s
    | t => wrongKind t "a string"
  encode := .string

/-- A truth value. -/
def bool : Codec Bool where
  decode _ t :=
    match t with
    | .bool b => .ok b
    | t => wrongKind t "a boolean"
  encode := .bool

/-- A natural number below a bound. -/
def decodeBelow (bound : Nat) (expected : String) (t : Tree) : Reads Nat :=
  match t with
  | .number (some (.int n)) =>
    if 0 ≤ n ∧ n < bound then .ok n.toNat else misfit (.outOfRange n expected)
  | t => wrongKind t expected

/-- An unsigned 16-bit number. -/
def uint16 : Codec UInt16 where
  decode _ t := (decodeBelow UInt16.size "u16" t).map .ofNat
  encode n := .nat n.toNat

/-- An unsigned 64-bit number. -/
def uint64 : Codec UInt64 where
  decode _ t := (decodeBelow UInt64.size "u64" t).map .ofNat
  encode n := .nat n.toNat

/-- A count of things in memory. -/
def count : Codec UInt64 where
  decode _ t := (decodeBelow UInt64.size "usize" t).map .ofNat
  encode n := .nat n.toNat

/-- A timestamp, as a text. -/
def timestamp : Codec Timestamp where
  decode _ t :=
    match t with
    | .string (some s) =>
      match Timestamp.read s with
      | .ok time => .ok time
      | .error e => misfit (.timestamp e)
    | t => wrongKind t "an RFC 3339 formatted date and time string"
  encode t := .string t.text

/-- Any document, kept as it is up to the order of members. -/
def opaqueValue : Codec Value where
  decode source t :=
    match t.value? source with
    | some v => .ok v
    | none => .error .malformed
  encode v := v

/-- A value that may be absent, which `null` stands for. -/
def option (c : Codec α) : Codec (Option α) where
  decode source t :=
    match t with
    | .null => .ok none
    | t => (c.decode source t).map some
  encode
    | none => .null
    | some a => c.encode a

/-- Reads the items of an array from the given index on. -/
def decodeItems (c : Codec α) (source : Source) : (index : Nat) → List Tree → Reads (List α)
  | _, [] => .ok []
  | index, t :: rest => do
    let a ← (c.decode source t).mapError (·.under (.item index))
    return a :: (← decodeItems c source (index + 1) rest)

/-- A list. -/
def list (c : Codec α) : Codec (List α) where
  decode source t :=
    match t with
    | .array items ending => do
      let items ← c.decodeItems (← descend source) 0 items
      ended ending
      return items
    | t => wrongKind t "a sequence"
  encode xs := .array (xs.map c.encode)

/-- Reads the members of an object as a table. -/
def decodeMembers (source : Source) :
    List (Option String × Tree) → (soFar : List (String × Value)) → Reads (List (String × Value))
  | [], soFar => .ok soFar
  | (name, t) :: rest, soFar =>
    match name, t.value? source with
    | some name, some v => decodeMembers source rest (Value.insertMember name v soFar)
    | _, _ => .error .malformed

/-- A table of opaque documents, sorted by name. -/
def table : Codec (List (String × Value)) where
  decode source t :=
    match t with
    | .object members ending => do
      let members ← decodeMembers (← descend source) members []
      ended ending
      return members
    | t => wrongKind t "a map"
  encode := .object

/-- The variant with a name, or a misfit that lists the known names. -/
def decodeVariant (names : List (String × α)) (name : String) : Reads α :=
  match names.lookup name with
  | some a => .ok a
  | none => misfit (.unknownVariant name (names.map Prod.fst))

/-- Reads one of some named variants from a value: its name, or an object whose only member has that
name and the value `null`. -/
def variantOfValue (names : List (String × α)) : Tree → Reads α
  | .string (some s) => decodeVariant names s
  | .object [(some s, value)] _ => do
    let a ← decodeVariant names s
    match value with
    | .null => return a
    | value => wrongKind value "unit"
  | .object .. => misfit .notSingle
  | t => wrongKind t "string or map"

/-- Reads one of some named variants from a text, written like a value. What is neither a text nor
an object is malformed here. -/
def variantOfText (names : List (String × α)) : Tree → Reads α
  | .string (some s) => decodeVariant names s
  | .object ((some s, value) :: rest) ending => do
    -- The name is looked up before the value is looked at.
    let a ← decodeVariant names s
    match value, rest with
    | .null, [] =>
      ended ending
      return a
    | .null, _ :: _ => .error .malformed
    | value, _ => wrongKind value "unit"
  | .object [] (.broken next) =>
    -- A value of another kind in the place of the name is told of before the text is malformed.
    match next with
    | .null => misfit (.wrongKind .null "variant identifier")
    | .bool b => misfit (.wrongKind (.bool b) "variant identifier")
    | .number (some (.int n)) => misfit (.wrongKind (.int n) "variant identifier")
    | .number (some (.float x)) => misfit (.wrongKind (.float x) "variant identifier")
    | .openArray => misfit (.wrongKind .array "variant identifier")
    | .openObject => misfit (.wrongKind .object "variant identifier")
    | _ => .error .malformed
  | _ => .error .malformed

/-- One of some named variants. -/
def variants (names : List (String × α)) (name : α → String) : Codec α where
  decode source t :=
    match source, t with
    | .value, t => variantOfValue names t
    | source, .object members ending => do
      let _ ← descend source
      variantOfText names (.object members ending)
    | _, t => variantOfText names t
  encode a := .string (name a)

/-- A codec for another type of the same content. -/
def iso (c : Codec α) (forth : α → β) (back : β → α) : Codec β where
  decode source t := (c.decode source t).map forth
  encode b := c.encode (back b)

/-- Reads an octet string that holds one value and blanks. -/
def read (c : Codec α) (bytes : Text.Utf8.Bytes) : Reads α := do
  let (tree, trailing) := Tree.ofBytes bytes
  let a ← c.decode (.text maxDepth) tree
  if trailing then .error .malformed else return a

/-- Reads the first value of an octet string; what follows it is not looked at. -/
def readFirst (c : Codec α) (bytes : Text.Utf8.Bytes) : Reads α :=
  c.decode (.text maxDepth) (Tree.ofBytes bytes).1

/-- Reads a value. -/
def readValue (c : Codec α) (v : Value) : Reads α := c.decode .value (.ofValue v)

/-- The text of a value. -/
def write (c : Codec α) (a : α) : String := (c.encode a).text

end Codec

end PipelineConsole.Json
