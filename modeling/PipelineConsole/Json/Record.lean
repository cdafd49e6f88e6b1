import PipelineConsole.Json.Codec

/-!
# Records

A record is written as an object with its fields in order. It is read from an object, whose unknown
members are skipped, or from an array that holds the fields in order.

A field that a text leaves out is an error, unless the field has a default. A field of an optional
type is absent when an object leaves it out, but an array must reach it.

## Main definitions

* `Json.Field`, `Json.Fields` — a field, and the fields of a record with the type of their values
* `Fields.put`, `Fields.complete`, `Fields.ofItems` — reading objects and arrays
* `Codec.record` — the codec of a record
-/

namespace PipelineConsole.Json

/-- What stands for a field that a text leaves out: nothing, a value, or a value that stands only
for a member of an object. -/
inductive Absence (α : Type) where
  | required
  | fallback (a : α)
  | inObjects (a : α)

/-- A field of a record. A value that `omits` holds of is not written. -/
structure Field (α : Type) where
  name : String
  codec : Codec α
  absence : Absence α
  omits : α → Bool

namespace Field

variable {α : Type}

/-- A field that must be there. -/
def required (name : String) (codec : Codec α) : Field α := ⟨name, codec, .required, fun _ => false⟩

/-- A field with a default. -/
def withDefault (name : String) (codec : Codec α) (a : α) : Field α :=
  ⟨name, codec, .fallback a, fun _ => false⟩

/-- An optional field that an object may leave out. -/
def nullable (name : String) (codec : Codec α) : Field (Option α) :=
  ⟨name, codec.option, .inObjects none, fun _ => false⟩

/-- An optional field that is written as `null` when it is absent. -/
def optional (name : String) (codec : Codec α) : Field (Option α) :=
  ⟨name, codec.option, .fallback none, fun _ => false⟩

/-- An optional field that is not written when it is absent. -/
def omittable (name : String) (codec : Codec α) : Field (Option α) :=
  ⟨name, codec.option, .fallback none, Option.isNone⟩

end Field

/-- The fields of a record, with the product of their types. -/
inductive Fields : Type → Type 1 where
  | done : Fields Unit
  | cons {α β : Type} (field : Field α) (rest : Fields β) : Fields (α × β)

namespace Fields

/-- The fields of a record that have been read so far. -/
def Slots : {τ : Type} → Fields τ → Type
  | _, .done => Unit
  | _, .cons (α := α) _ rest => Option α × Slots rest

/-- No field read. -/
def noSlots : {τ : Type} → (fs : Fields τ) → fs.Slots
  | _, .done => ()
  | _, .cons _ rest => (none, noSlots rest)

/-- The number of fields. -/
def size : {τ : Type} → Fields τ → Nat
  | _, .done => 0
  | _, .cons _ rest => rest.size + 1

/-- Reads the value of a member into its slot; `none` if no field has its name. A second member of
one name is refused before its value is looked at. -/
def put (source : Source) (name : String) (t : Tree) :
    {τ : Type} → (fs : Fields τ) → fs.Slots → Option (Reads fs.Slots)
  | _, .done, _ => none
  | _, .cons field rest, slots =>
    if name = field.name then
      some <|
        match slots.1 with
        | some _ => misfit (.duplicateField name)
        | none =>
          match field.codec.decode source t with
          | .ok a => .ok (some a, slots.2)
          | .error e => .error (e.under (.field name))
    else (put source name t rest slots.2).map fun r => r.map fun later => (slots.1, later)

/-- Reads the members of an object into the slots. The values of unknown members only have to keep
the grammar. -/
def putAll (source : Source) {τ : Type} (fs : Fields τ) :
    fs.Slots → List (Option String × Tree) → Reads fs.Slots
  | slots, [] => .ok slots
  | _, (none, _) :: _ => .error .malformed
  | slots, (some name, t) :: rest =>
    match fs.put source name t slots with
    | some (.ok slots) => putAll source fs slots rest
    | some (.error e) => .error e
    | none => if t.isComplete then putAll source fs slots rest else .error .malformed

/-- The values of the fields at the end of an object. -/
def complete : {τ : Type} → (fs : Fields τ) → fs.Slots → Reads τ
  | _, .done, _ => .ok ()
  | _, .cons field rest, slots => do
    let a ←
      match slots.1, field.absence with
      | some a, _ => .ok a
      | none, .required => misfit (.missingField field.name)
      | none, .fallback a | none, .inObjects a => .ok a
    return (a, ← complete rest slots.2)

/-- Reads the fields from the items of an array; `index` items came before. In a text an item too
many is malformed, in a value it is a misfit. -/
def ofItems (record : String) (size : Nat) (source : Source) :
    {τ : Type} → (fs : Fields τ) → (index : Nat) → List Tree → Ending → Reads τ
  | _, .done, _, [], ending => ended ending
  | _, .done, index, items, _ =>
    match source with
    | .text _ => .error .malformed
    | .value => misfit (.tooMany (index + items.length))
  | _, .cons field rest, index, t :: items, ending => do
    let a ← (field.codec.decode source t).mapError (·.under (.item index))
    return (a, ← ofItems record size source rest (index + 1) items ending)
  | _, .cons field rest, index, [], ending => do
    ended ending
    match field.absence with
    | .fallback a => return (a, ← ofItems record size source rest (index + 1) [] ending)
    | _ => misfit (.tooFew index record size)

/-- The members that the fields are written as. -/
def members : {τ : Type} → Fields τ → τ → List (String × Value)
  | _, .done, _ => []
  | _, .cons field rest, (a, b) =>
    if field.omits a then rest.members b
    else (field.name, field.codec.encode a) :: rest.members b

end Fields

/-- The codec of a record with the given name and fields. -/
def Codec.record {τ : Type} (name : String) (fs : Fields τ) : Codec τ where
  decode source t :=
    match t with
    | .object members ending => do
      let slots ← fs.putAll (← descend source) fs.noSlots members
      ended ending
      fs.complete slots
    | .array items ending => do fs.ofItems name fs.size (← descend source) 0 items ending
    | t => wrongKind t ("struct " ++ name)
  encode a := .object (fs.members a)

end PipelineConsole.Json
