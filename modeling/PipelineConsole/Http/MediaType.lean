/-!
# Media types

A media type names a type and a subtype and may carry parameters. The part of the subtype after its
last plus sign is its suffix.

## Main definitions

* `MediaType`, `MediaType.read?` — media types and their reader
* `MediaType.isJson` — the media types of JSON documents
-/

namespace PipelineConsole.Http

/-- A media type without its parameters, in lower case. -/
structure MediaType where
  type : String
  subtype : String
  suffix : Option String := none
  deriving DecidableEq, Repr

namespace MediaType

/-- A character of a token. -/
def isTokenChar (c : Char) : Bool := c.isAlphanum || "!#$%&'*+-.^_`|~".toList.contains c

/-- A character of a quoted value. -/
def isQuotedChar (c : Char) : Bool := 0x20 ≤ c.toNat && c.toNat ≠ 0x7F

/-- Where a reader of parameters stands. A value is a token, possibly an empty one at the end, or a
quoted value that is not empty. -/
inductive ParameterScan where
  | between
  | inName
  | beforeValue
  | inToken
  | afterOpeningQuote
  | inQuotes
  | afterClosingQuote
  deriving DecidableEq, Repr

namespace ParameterScan

/-- Reads a character. -/
def step? (state : ParameterScan) (c : Char) : Option ParameterScan :=
  match state with
  | between => if c = ' ' then some between else if isTokenChar c then some inName else none
  | inName => if isTokenChar c then some inName else if c = '=' then some beforeValue else none
  | beforeValue =>
    if c = '"' then some afterOpeningQuote else if isTokenChar c then some inToken else none
  | inToken => if isTokenChar c then some inToken else if c = ';' then some between else none
  | afterOpeningQuote => if isQuotedChar c then some inQuotes else none
  | inQuotes =>
    if c = '"' then some afterClosingQuote else if isQuotedChar c then some inQuotes else none
  | afterClosingQuote =>
    if c = ';' then some between else if c = ' ' then some afterClosingQuote else none

/-- Whether the parameters may end here. -/
def mayEnd : ParameterScan → Bool
  | between | beforeValue | inToken | afterClosingQuote => true
  | inName | afterOpeningQuote | inQuotes => false

end ParameterScan

/-- Whether a text is a list of parameters, as it stands after a semicolon. -/
def areParameters (cs : List Char) : Bool :=
  match cs.foldlM ParameterScan.step? .between with
  | some state => state.mayEnd
  | none => false

/-- What stands before and after the last plus sign of a text, if there is one that does not start
the text. -/
def splitSuffix (cs : List Char) : List Char × Option (List Char) :=
  let suffix := (cs.reverse.takeWhile (· ≠ '+')).reverse
  let before := cs.take (cs.length - suffix.length - 1)
  if before.isEmpty then (cs, none) else (before, some suffix)

/-- Reads a media type. -/
def read? (s : String) : Option MediaType :=
  let cs := s.toList.map Char.toLower
  let type := cs.takeWhile isTokenChar
  match cs.drop type.length with
  | '/' :: rest =>
    let subtype := rest.takeWhile isTokenChar
    let after := rest.drop subtype.length
    let closed :=
      match after with
      | [] => true
      | ';' :: ps => areParameters ps
      | _ => false
    if type.isEmpty || subtype.isEmpty || !closed then none
    else
      let (main, suffix) := splitSuffix subtype
      some ⟨.ofList type, .ofList main, suffix.map .ofList⟩
  | _ => none

/-- The media types of JSON documents. -/
def isJson (m : MediaType) : Bool :=
  m.type = "application" && (m.subtype = "json" || m.suffix = some "json")

end MediaType

end PipelineConsole.Http
