import PipelineConsole.Http.Message

/-!
# Request lines

A request starts with its method and its target. The target is a path with a query, or an address
of which only these two are used, or the name of a host, or an asterisk. Not every character may
stand in each part; what should have been percent-encoded is refused, with some exceptions that are
common among clients. Characters beyond ASCII are taken as they are.

## Main definitions

* `Http.Target`, `Target.read?` — what a request asks for
* `Request.ofLine?` — the request with a request line
* `Request.withHeader?` — a request with one more header
-/

namespace PipelineConsole.Http

/-- A character of a method or of the name of a header. -/
def isTokenChar (c : Char) : Bool := c.isAlphanum || "!#$%&'*+-.^_\x60|~".toList.contains c

/-- A method or the name of a header. -/
def isToken (cs : List Char) : Bool := !cs.isEmpty && cs.all isTokenChar

/-- What a request asks for. -/
structure Target where
  path : String
  query : String := ""
  deriving DecidableEq, Repr

namespace Target

/-! ### Paths and queries -/

/-- A character that shows on paper, or one beyond ASCII. -/
def isGraphic (c : Char) : Bool := 0x21 ≤ c.toNat && c.toNat ≠ 0x7F

/-- A character of a path. -/
def isPathChar (c : Char) : Bool := isGraphic c && !"<>\x60".toList.contains c

/-- A character of a query. -/
def isQueryChar (c : Char) : Bool := isGraphic c && !"<>\"".toList.contains c

/-- Reads a path and a query: the query starts after the first question mark, and a number sign ends
the target. -/
def readPath? (cs : List Char) : Option Target :=
  let sent := cs.takeWhile (· ≠ '#')
  let path := sent.takeWhile (· ≠ '?')
  let query := (sent.dropWhile (· ≠ '?')).drop 1
  if path.all isPathChar && query.all isQueryChar then
    some { path := .ofList path, query := .ofList query }
  else none

/-! ### Authorities -/

/-- What has been read of the part of an address that names a host, perhaps with a user before it
and a port behind it. -/
structure Authority where
  /-- The colons that could be the one before a port. -/
  colons : Nat := 0
  isOpen : Bool := false
  isClosed : Bool := false
  /-- Whether a percent sign stands where only a user may have one. -/
  hasPercent : Bool := false
  endsInUser : Bool := false

namespace Authority

/-- A character that may stand anywhere in an authority. -/
def isPlain (c : Char) : Bool := c.isAlphanum || "!$&'()*+,-.;=_~".toList.contains c

/-- Reads a character. What counts towards a port is forgotten once it turns out to belong to a user
or to the number of a machine between brackets. -/
def push? (a : Authority) (c : Char) : Option Authority :=
  let b := { a with endsInUser := false }
  if c = ':' then if a.colons < 8 then some { b with colons := a.colons + 1 } else none
  else if c = '[' then if a.hasPercent || a.isOpen then none else some { b with isOpen := true }
  else if c = ']' then
    if !a.isOpen || a.isClosed then none
    else some { b with isClosed := true, colons := 0, hasPercent := false }
  else if c = '@' then some { b with colons := 0, hasPercent := false, endsInUser := true }
  else if c = '%' then some { b with hasPercent := true }
  else if isPlain c then some b
  else none

/-- Whether an authority may end here. -/
def isComplete (a : Authority) : Bool :=
  a.isOpen == a.isClosed && a.colons ≤ 1 && !a.endsInUser && !a.hasPercent

/-- Whether a text is an authority. -/
def accepts (cs : List Char) : Bool :=
  !cs.isEmpty && ((cs.foldlM push? ({} : Authority)).any isComplete)

end Authority

/-! ### Targets -/

/-- A character of a scheme. -/
def isSchemeChar (c : Char) : Bool := c.isAlphanum || c = '+' || c = '-' || c = '.'

/-- The longest scheme. -/
def longestScheme : Nat := 64

/-- The longest target, in octets. -/
def longest : Nat := 65534

/-- The scheme of an address and what follows it. -/
def splitScheme? (cs : List Char) : Option (List Char × List Char) :=
  match cs.dropWhile isSchemeChar with
  | ':' :: '/' :: '/' :: rest => some (cs.takeWhile isSchemeChar, rest)
  | _ => none

/-- Reads an address. An empty path is the root. -/
def readAddress? (scheme rest : List Char) : Option Target :=
  let isInside (c : Char) : Bool := c ≠ '/' && c ≠ '?' && c ≠ '#'
  if scheme.length ≤ longestScheme && Authority.accepts (rest.takeWhile isInside) then
    (readPath? (rest.dropWhile isInside)).map fun t =>
      if t.path.isEmpty then { t with path := "/" } else t
  else none

/-- Reads a target. The name of a host alone has no path. -/
def read? (s : String) : Option Target :=
  if longest < s.utf8ByteSize then none
  else
    match s.toList with
    | '/' :: cs => readPath? ('/' :: cs)
    | ['*'] => some { path := "*" }
    | cs =>
      match splitScheme? cs with
      | some (scheme, rest) => readAddress? scheme rest
      | none => if Authority.accepts cs then some { path := "" } else none

end Target

namespace Request

/-- The request with a request line: the method, a space and the target. -/
def ofLine? (line : String) : Option Request :=
  let method := line.toList.takeWhile (· ≠ ' ')
  let target := (line.toList.dropWhile (· ≠ ' ')).drop 1
  if isToken method then
    (Target.read? (.ofList target)).map fun t =>
      { method := .ofName (.ofList method), path := t.path, query := t.query }
  else none

/-- A request with one more header, if it may have that. The case of a name does not count. -/
def withHeader? (r : Request) (name value : String) : Option Request :=
  if isToken name.toList && value.toList.all isHeaderChar then
    some { r with headers := r.headers ++ [(.ofList (name.toList.map Char.toLower), value)] }
  else none

end Request

end PipelineConsole.Http
