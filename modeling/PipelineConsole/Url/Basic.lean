import PipelineConsole.Http.Query
import PipelineConsole.Url.Host

/-!
# Addresses

An address has a scheme and, in most schemes, a host and a path of segments. Segments are kept in
their percent-encoded form, so a slash within a segment never separates two of them. What follows a
number sign is not kept, since it is never sent.

## Main definitions

* `Url`, `Url.Path` — addresses
* `Url.under?` — an address with more segments
* `Url.withQuery` — an address with more parameters
* `Url.target`, `Url.text` — written forms
-/

namespace PipelineConsole

open Text.Utf8 (Bytes)

/-- The path of an address: segments, or a mere text that has none. -/
inductive Url.Path where
  | segments (ss : List String)
  | bare (text : String)
  deriving DecidableEq, Repr

/-- An address. The user is encoded, with the password after a colon; the empty text is nobody. A
host may have the empty name, unless its scheme knows better. A port is given only if it is not that
of the scheme. -/
structure Url where
  scheme : String
  user : String := ""
  host : Option Url.Host := none
  port : Option UInt16 := none
  path : Url.Path
  query : Option String := none
  deriving DecidableEq, Repr

namespace Url

/-! ### Schemes -/

/-- The port that belongs to a scheme. -/
def defaultPort? : (scheme : String) → Option UInt16
  | "http" | "ws" => some 80
  | "https" | "wss" => some 443
  | "ftp" => some 21
  | _ => none

/-- The scheme of files. -/
def fileScheme : String := "file"

/-- Whether the addresses of a scheme always have segments, which backslashes separate as well. -/
def isSpecial (scheme : String) : Bool := scheme = fileScheme || (defaultPort? scheme).isSome

/-! ### Percent-encoding -/

/-- Whether an octet is printable ASCII and none of some characters. -/
def isPlain (others : String) (b : UInt8) : Bool :=
  0x20 ≤ b && b < 0x7F && !others.toList.contains (Char.ofNat b.toNat)

/-- The characters that are encoded in a path. -/
def pathMarks : String := " \"#<>?`\x7b\x7d"

/-- The characters that are encoded in a segment that is added to a path. -/
def segmentMarks (special : Bool) : String := pathMarks ++ "/%" ++ (if special then "\\" else "")

/-- The characters that are encoded in the name of a user. -/
def userMarks : String := pathMarks ++ "/:;=@[\\]^|"

/-- The characters that are encoded in a query. -/
def queryMarks (special : Bool) : String := " \"#<>" ++ (if special then "'" else "")

/-- A text with some characters encoded, along with all that is not printable ASCII. -/
def encode (marks : String) (cs : List Char) : String :=
  .ofList (Http.Percent.encode (isPlain marks) (Text.Utf8.encodeChars cs))

/-! ### Segments -/

/-- A tab, line feed or carriage return, which no address has. -/
def isDropped (c : Char) : Bool := c = '\t' || c = '\n' || c = '\r'

/-- The segment for the place that a path is in. -/
def here : String := "."

/-- The segment for the place above. -/
def above : String := ".."

/-- The segments without an empty one at their end, if there are others. -/
def withoutEmptyEnd (ss : List String) : List String :=
  if ss.getLast? = some "" ∧ ss ≠ [""] then ss.dropLast else ss

/-- The segments with one more. A segment that stands for the place above once tabs and line ends
are dropped leaves the last segment. -/
def addSegment (special : Bool) (ss : List String) (s : String) : List String :=
  let ss := if ss = [""] then [] else ss
  let cs := s.toList.filter (!isDropped ·)
  if cs = above.toList then ss.dropLast ++ [""]
  else if cs = here.toList then ss ++ [""]
  else ss ++ [encode (segmentMarks special) cs]

/-- The segments with more of them, each encoded so that it stays one. Segments that stand for a
place are skipped. -/
def addSegments (special : Bool) (ss added : List String) : List String :=
  (added.filter fun s => s ≠ here ∧ s ≠ above).foldl (addSegment special) (withoutEmptyEnd ss)

/-- The address with more segments, if it has any. -/
def under? (u : Url) (added : List String) : Option Url :=
  match u.path with
  | .segments ss => some { u with path := .segments (addSegments (isSpecial u.scheme) ss added) }
  | .bare _ => none

/-- The address with more parameters. -/
def withQuery (u : Url) (ps : List (String × String)) : Url :=
  let written := Http.Query.write ps
  match u.query, ps with
  | none, [] | some "", [] => { u with query := none }
  | none, _ | some "", _ => { u with query := some written }
  | some _, [] => u
  | some q, _ => { u with query := some (q ++ "&" ++ written) }

/-! ### Written forms -/

/-- The path in its written form. -/
def Path.text : Path → String
  | segments ss => String.join (ss.map ("/" ++ ·))
  | bare text => text

/-- The target of a request: the path and the query. -/
def target (u : Url) : String := u.path.text ++ (u.query.map ("?" ++ ·)).getD ""

/-- The host with what goes with it. -/
def authority? (u : Url) : Option String :=
  u.host.map fun host =>
    (if u.user.isEmpty then "" else u.user ++ "@") ++ host.text ++
      (u.port.map fun port => ":" ++ toString port.toNat).getD ""

/-- The address in its written form. -/
def text (u : Url) : String :=
  u.scheme ++ ":" ++ (u.authority?.map ("//" ++ ·)).getD "" ++ u.target

end Url

end PipelineConsole
