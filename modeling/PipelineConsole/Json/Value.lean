import PipelineConsole.Number.Binary64

/-!
# JSON values

A number is an integer that fits 64 bits, signed or unsigned, or a finite double. An object is a
list of members in the order in which they are written; `Value.insertMember` builds the sorted
objects that opaque documents are kept as.

## Main definitions

* `Json.Number`, `Json.Value` — numbers and values
* `Value.insertMember` — put a member into a sorted object, replacing one of the same name
* `Value.get?`, `Value.asBool?`, `Value.asArray?`, … — access
-/

namespace PipelineConsole.Json

/-- A number of a document. -/
inductive Number where
  | int (n : Int)
  | float (x : Binary64)
  deriving DecidableEq, Repr

/-- A document. -/
inductive Value where
  | null
  | bool (b : Bool)
  | number (n : Number)
  | string (s : String)
  | array (items : List Value)
  | object (members : List (String × Value))
  deriving Repr, Inhabited

namespace Value

/-- The integer `n` as a value. -/
def int (n : Int) : Value := .number (.int n)

/-- The natural number `n` as a value. -/
def nat (n : Nat) : Value := .int n

/-- A double as a value: there is no number for an infinity or a NaN, `null` stands for them. -/
def double (x : Binary64) : Value := if x.isFinite then .number (.float x) else .null

/-- Text values from texts. -/
def strings (xs : List String) : Value := .array (xs.map .string)

/-- Puts a member in its place in a list of members sorted by name. A member of the same name is
replaced. -/
def insertMember (name : String) (value : Value) :
    List (String × Value) → List (String × Value)
  | [] => [(name, value)]
  | (n, v) :: rest =>
    if name < n then (name, value) :: (n, v) :: rest
    else if name = n then (name, value) :: rest
    else (n, v) :: insertMember name value rest

/-- The object with the given members, sorted by name; of members of one name the last stays. -/
def ofMembers (members : List (String × Value)) : Value :=
  .object (members.foldl (fun acc m => insertMember m.1 m.2 acc) [])

/-- The member of an object. -/
def get? (v : Value) (name : String) : Option Value :=
  match v with
  | .object members => members.lookup name
  | _ => none

/-- The truth value, if the value is one. -/
def asBool? : Value → Option Bool
  | .bool b => some b
  | _ => none

/-- The items, if the value is an array. -/
def asArray? : Value → Option (List Value)
  | .array items => some items
  | _ => none

/-- The text, if the value is one. -/
def asString? : Value → Option String
  | .string s => some s
  | _ => none

/-- The integer, if the value is one. -/
def asInt? : Value → Option Int
  | .number (.int n) => some n
  | _ => none

/-- Whether the value is an object. -/
def isObject : Value → Bool
  | .object _ => true
  | _ => false

end Value

end PipelineConsole.Json
