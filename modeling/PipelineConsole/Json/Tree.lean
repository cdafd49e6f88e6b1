import PipelineConsole.Json.Token

/-!
# The tree of a JSON text

What a text holds up to its first grammatical fault: a tree whose last branches may be broken.
Reading a text as some type walks this tree in the order of the text, so that of a misfit and a
fault the one that stands first is found first.

The tree is built by a machine that takes one token at a time and keeps the arrays and objects that
are not closed yet.

## Main definitions

* `Json.Tree`, `Json.Ending` — trees and the ends of arrays and objects
* `Json.Builder`, `Builder.step` — the machine
* `Tree.ofBytes` — the tree of a text, and whether anything but blanks follows it
* `Tree.isComplete` — no fault anywhere
* `Tree.ofValue` — the tree of a written value
-/

namespace PipelineConsole.Json

/-- How an array or object ends: by its bracket, or by a token that cannot stand there. -/
inductive Ending where
  | closed
  | broken (next : Token)
  deriving DecidableEq, Repr

/-- What a text holds up to its first fault. A member whose name is followed by no value has a fault
as its value. -/
inductive Tree where
  | fault
  | null
  | bool (b : Bool)
  | number (n : Option Number)
  | string (s : Option String)
  | array (items : List Tree) (ending : Ending)
  | object (members : List (Option String × Tree)) (ending : Ending)
  deriving Repr, Inhabited

/-- An array or object that is not closed yet, its parts last first: an array, an object after a
member or at its start, or an object with a name whose value is still to come. -/
inductive Frame where
  | array (items : List Tree)
  | object (members : List (Option String × Tree))
  | member (members : List (Option String × Tree)) (name : Option String)

/-- What may come next. -/
inductive Expects where
  | value
  | itemOrClose
  | commaOrClose
  | nameOrClose
  | name
  | colon
  deriving DecidableEq

/-- The state of the machine: inside some open frames, innermost first, or past the value. -/
inductive Builder where
  | building (frames : List Frame) (expects : Expects)
  | done (tree : Tree) (trailing : Bool)

namespace Builder

/-- The frame as a tree with the given end. -/
def close (frame : Frame) (ending : Ending) : Tree :=
  match frame with
  | .array items => .array items.reverse ending
  | .object members => .object members.reverse ending
  | .member members name => .object ((name, .fault) :: members).reverse ending

/-- The whole tree when the text breaks off behind `tree` inside the frames. -/
def breakOff : List Frame → Tree → Tree
  | [], tree => tree
  | .array items :: frames, tree =>
    breakOff frames (close (.array (tree :: items)) (.broken .fault))
  | .object members :: frames, _ => breakOff frames (close (.object members) (.broken .fault))
  | .member members name :: frames, tree =>
    breakOff frames (close (.object ((name, tree) :: members)) (.broken .fault))

/-- Puts a finished value into the innermost frame. -/
def deliver : List Frame → Tree → Builder
  | [], tree => .done tree false
  | .array items :: frames, tree => .building (.array (tree :: items) :: frames) .commaOrClose
  | .member members name :: frames, tree =>
    .building (.object ((name, tree) :: members) :: frames) .commaOrClose
  | .object members :: frames, _ => .done (breakOff (.object members :: frames) .fault) true

/-- Reads the first token of a value. -/
def value (frames : List Frame) (t : Token) : Builder :=
  match t with
  | .null => deliver frames .null
  | .bool b => deliver frames (.bool b)
  | .number n => deliver frames (.number n)
  | .string s => deliver frames (.string s)
  | .openArray => .building (.array [] :: frames) .itemOrClose
  | .openObject => .building (.object [] :: frames) .nameOrClose
  | _ => .done (breakOff frames .fault) true

/-- Ends the innermost frame, by its bracket or by a token that cannot stand there. -/
def closeFrame (frames : List Frame) (t : Token) : Builder :=
  match frames, t with
  | [], _ => .done .fault true
  | .array items :: frames, .closeArray => deliver frames (close (.array items) .closed)
  | .object members :: frames, .closeObject => deliver frames (close (.object members) .closed)
  | frame :: frames, t => .done (breakOff frames (close frame (.broken t))) true

/-- Reads the name of a member. -/
def name (frames : List Frame) (t : Token) : Builder :=
  match frames, t with
  | .object members :: frames, .string s => .building (.member members s :: frames) .colon
  | frames, t => closeFrame frames (if t = .closeObject then .fault else t)

/-- Reads one token. -/
def step (state : Builder) (t : Token) : Builder :=
  match state with
  | .done tree _ => .done tree true
  | .building frames expects =>
    match expects with
    | .value => value frames t
    | .itemOrClose => if t = .closeArray then closeFrame frames t else value frames t
    | .commaOrClose =>
      match frames, t with
      | .array _ :: _, .comma => .building frames .value
      | .object _ :: _, .comma => .building frames .name
      | _, _ => closeFrame frames t
    | .nameOrClose => if t = .closeObject then closeFrame frames t else name frames t
    | .name => name frames t
    | .colon => if t = .colon then .building frames .value else .done (breakOff frames .fault) true

/-- The tree of the tokens read, and whether more than one value stood there. -/
def finish : Builder → Tree × Bool
  | .done tree trailing => (tree, trailing)
  | .building frames _ => (breakOff frames .fault, true)

end Builder

namespace Tree

/-- The tree of a token list and whether anything follows its value. -/
def ofTokens (ts : List Token) : Tree × Bool :=
  (ts.foldl Builder.step (.building [] .value)).finish

/-- The tree of a text and whether anything but blanks follows its value. -/
def ofBytes (bytes : Text.Utf8.Bytes) : Tree × Bool := ofTokens (tokens bytes)

mutual

/-- Whether the grammar is kept to the end. The content of strings and numbers is not looked at. -/
def isComplete : Tree → Bool
  | .fault => false
  | .null | .bool _ | .number _ | .string _ => true
  | .array items ending => ending = .closed && itemsComplete items
  | .object members ending => ending = .closed && membersComplete members

/-- Whether all items are complete. -/
def itemsComplete : List Tree → Bool
  | [] => true
  | t :: rest => t.isComplete && itemsComplete rest

/-- Whether the values of all members are complete. -/
def membersComplete : List (Option String × Tree) → Bool
  | [] => true
  | (_, t) :: rest => t.isComplete && membersComplete rest

end

mutual

/-- The tree of a written value. -/
def ofValue : Value → Tree
  | .null => .null
  | .bool b => .bool b
  | .number n => .number (some n)
  | .string s => .string (some s)
  | .array items => .array (ofItems items) .closed
  | .object members => .object (ofMembers members) .closed

/-- The trees of the items of an array. -/
def ofItems : List Value → List Tree
  | [] => []
  | v :: rest => ofValue v :: ofItems rest

/-- The trees of the members of an object. -/
def ofMembers : List (String × Value) → List (Option String × Tree)
  | [] => []
  | (name, v) :: rest => (some name, ofValue v) :: ofMembers rest

end

end Tree

end PipelineConsole.Json
