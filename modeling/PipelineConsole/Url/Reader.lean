import PipelineConsole.Number.Decimal
import PipelineConsole.Url.Basic

/-!
# Reading addresses

An address is read from left to right: the scheme up to the first colon, then the user and the host
between slashes, the port, the path and the query. Control characters and spaces around an address
do not count, and neither do tabs and line ends within it.

## Main definitions

* `Url.read` — the address that a text stands for
-/

namespace PipelineConsole.Url

/-- What is left of an address to be read. -/
abbrev Rest := List Char

/-- A control character or a space. -/
def isOutside (c : Char) : Bool := c.toNat ≤ 0x20

/-- The characters of an address that count. -/
def significant (s : String) : List Char :=
  (((s.toList.dropWhile isOutside).reverse.dropWhile isOutside).reverse).filter (!isDropped ·)

/-! ### Scheme -/

/-- A character that a scheme may have after its first letter. -/
def isSchemeChar (c : Char) : Bool := c.isAlphanum || c = '+' || c = '-' || c = '.'

/-- The scheme of an address, in lower case, and what follows its colon. -/
def readScheme? (cs : Rest) : Option (String × Rest) :=
  let name := cs.takeWhile (· ≠ ':')
  match cs.drop name.length with
  | ':' :: rest =>
    if name.head?.any Char.isAlpha && name.all isSchemeChar then
      some (.ofList (name.map Char.toLower), rest)
    else none
  | _ => none

/-! ### User, host and port -/

/-- A slash; in special schemes a backslash is one as well. -/
def isSlash (special : Bool) (c : Char) : Bool := c = '/' || (special && c = '\\')

/-- A character that ends the host. -/
def endsHost (special : Bool) (c : Char) : Bool := isSlash special c || c = '?' || c = '#'

/-- The user before the last at sign in front of the host, and the host with what follows. -/
def splitUser (special : Bool) (cs : Rest) : Option (List Char) × Rest :=
  let part := cs.takeWhile (!endsHost special ·)
  let name := (part.reverse.dropWhile (· ≠ '@')).reverse
  match name.getLast? with
  | some _ => (some name.dropLast, cs.drop name.length)
  | none => (none, cs)

/-- A user and a password, encoded. An empty password is left out. -/
def encodeUser (cs : List Char) : String :=
  let name := cs.takeWhile (· ≠ ':')
  let password := cs.drop (name.length + 1)
  encode userMarks name ++ (if password.isEmpty then "" else ":" ++ encode userMarks password)

/-- Reads the user. An at sign in front of nothing is refused. -/
def readUser (special : Bool) (cs : Rest) : Except UrlError (String × Rest) :=
  match splitUser special cs with
  | (none, rest) => .ok ("", rest)
  | (some name, rest) =>
    if name.isEmpty && rest.head?.any (endsHost special) then .error .emptyHost
    else .ok (encodeUser name, rest)

/-- The text of a host and what follows. A colon between brackets belongs to the host. -/
def splitHost (special : Bool) : (bracketed : Bool) → Rest → List Char × Rest
  | _, [] => ([], [])
  | bracketed, c :: rest =>
    if (c = ':' && !bracketed) || endsHost special c then ([], c :: rest)
    else
      let (host, rest) := splitHost special ((bracketed || c = '[') && c ≠ ']') rest
      (c :: host, rest)

/-- Reads a port after its colon. It may be left out, and is not kept if it belongs to the
scheme. -/
def readPort (scheme : String) (cs : Rest) : Except UrlError (Option UInt16 × Rest) :=
  let digits := cs.takeWhile Char.isDigit
  let rest := cs.dropWhile Char.isDigit
  let number := Number.ofDigits digits
  if UInt16.size ≤ number || rest.head?.any (!endsHost true ·) then .error .badPort
  else
    let port := UInt16.ofNat number
    .ok (if digits.isEmpty ∨ defaultPort? scheme = some port then none else some port, rest)

/-- Reads the host and the port. A special scheme needs a host, and so do a user and a port. -/
def readHost (scheme user : String) (cs : Rest) :
    Except UrlError (Host × Option UInt16 × Rest) := do
  let special := isSpecial scheme
  let (name, rest) := splitHost special false cs
  if special && name.isEmpty then throw .emptyHost
  let host ← Host.read special name
  if name.isEmpty && rest.head? = some ':' then throw .emptyHost
  let (port, rest) ←
    match rest with
    | ':' :: rest => readPort scheme rest
    | rest => pure (none, rest)
  if name.isEmpty && !user.isEmpty then throw .emptyHost
  return (host, port, rest)

/-! ### Path and query -/

/-- Whether a segment stands for the place that a path is in, also when its point is encoded. -/
def isHere (cs : List Char) : Bool := [".", "%2e"].contains (String.ofList (cs.map Char.toLower))

/-- Whether a segment stands for the place above, also when points are encoded. -/
def isAbove (cs : List Char) : Bool :=
  ["..", ".%2e", "%2e.", "%2e%2e"].contains (String.ofList (cs.map Char.toLower))

/-- The segments that some parts of a path lead to. A path that ends with a place ends with an empty
segment. -/
def resolve (soFar : List String) : List (List Char) → List String
  | [] => soFar
  | part :: rest =>
    let ending := if rest.isEmpty then [""] else []
    if isAbove part then resolve (soFar.dropLast ++ ending) rest
    else if isHere part then resolve (soFar ++ ending) rest
    else resolve (soFar ++ [encode pathMarks part]) rest

/-- Reads a path whose first slash has been read, and a query after it. -/
def readPath (special : Bool) (cs : Rest) : List String × Rest :=
  let text := cs.takeWhile fun c => c ≠ '?' ∧ c ≠ '#'
  let parts := Text.pieces '/' (text.map fun c => if isSlash special c then '/' else c)
  (resolve [] parts, cs.drop text.length)

/-- Reads a query. What follows a number sign is not looked at. -/
def readQuery (special : Bool) (cs : Rest) : Option String :=
  match cs with
  | '?' :: rest => some (encode (queryMarks special) (rest.takeWhile (· ≠ '#')))
  | _ => none

/-- The address with the path and the query that are left to be read. -/
def finish (u : Url) (cs : Rest) : Url :=
  let special := isSpecial u.scheme
  let (path, rest) :=
    match cs with
    | c :: rest =>
      -- A special scheme has a path even where none is written.
      if isSlash special c then readPath special rest
      else if !special && (c = '?' || c = '#') then ([], cs)
      else readPath special cs
    | [] => if special then ([""], []) else ([], [])
  { u with path := .segments path, query := readQuery special rest }

/-- Reads what follows the two slashes of an address. -/
def readAuthority (scheme : String) (cs : Rest) : Except UrlError Url := do
  let (user, rest) ← readUser (isSpecial scheme) cs
  let (host, port, rest) ← readHost scheme user rest
  return finish { scheme, user, host := some host, port, path := .segments [] } rest

/-- A letter with a colon or bar behind it, which is a drive and no host. -/
def isDrive : List Char → Bool
  | [c, d] => c.isAlpha && (d = ':' || d = '|')
  | _ => false

/-- Reads the address of a file. The machine itself has the empty name as its host. -/
def readFile (cs : Rest) : Except UrlError Url := do
  let itself : Host := .domain ""
  let u : Url := { scheme := fileScheme, host := some itself, path := .segments [] }
  match cs with
  | a :: b :: rest =>
    if isSlash true a && isSlash true b then
      let name := rest.takeWhile (!endsHost true ·)
      -- A drive is the first segment of the path.
      if isDrive name then return finish u rest
      let host ← if name.isEmpty then pure itself else Host.read true name
      let host := if host = .domain "localhost" then itself else host
      return finish { u with host := some host } (rest.drop name.length)
    else return finish u cs
  | cs => return finish u cs

/-- Reads what follows the scheme of an address. -/
def readAfterScheme (scheme : String) (cs : Rest) : Except UrlError Url :=
  if scheme = fileScheme then readFile cs
  else if isSpecial scheme then readAuthority scheme (cs.dropWhile (isSlash true))
  else
    match cs with
    | '/' :: '/' :: rest => readAuthority scheme rest
    | '/' :: _ => .ok (finish { scheme, path := .segments [] } cs)
    | cs =>
      let text := cs.takeWhile fun c => c ≠ '?' ∧ c ≠ '#'
      .ok { scheme, path := .bare (encode "" text), query := readQuery false (cs.drop text.length) }

/-- Reads an address. -/
def read (s : String) : Except UrlError Url :=
  match readScheme? (significant s) with
  | some (scheme, rest) => readAfterScheme scheme rest
  | none => .error .noScheme

end PipelineConsole.Url
