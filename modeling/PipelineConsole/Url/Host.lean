import PipelineConsole.Http.Percent
import PipelineConsole.Text.Blank
import PipelineConsole.Url.Domain.Name

/-!
# Hosts

The host of an address is a domain or the number of a machine. A number of four octets may be
written in one to four parts, each decimal, octal or hexadecimal; one of eight pieces is written
between brackets, where a double colon stands for the zeros that are left out.

## Main definitions

* `UrlError` — why a text is no address
* `Url.Host`, `Host.read`, `Host.text` — hosts
-/

namespace PipelineConsole

/-- Why a text is no address. -/
inductive UrlError where
  | noScheme
  | emptyHost
  | badPort
  | badIpv4
  | badIpv6
  | badDomain
  | badHost
  deriving DecidableEq, Repr

/-- The wording of an error. -/
def UrlError.message : UrlError → String
  | .noScheme => "relative URL without a base"
  | .emptyHost => "empty host"
  | .badPort => "invalid port number"
  | .badIpv4 => "invalid IPv4 address"
  | .badIpv6 => "invalid IPv6 address"
  | .badDomain => "invalid international domain name"
  | .badHost => "invalid domain character"

namespace Url

/-- The host of an address. -/
inductive Host where
  | domain (name : String)
  | ipv4 (address : UInt32)
  | ipv6 (pieces : List UInt16)
  deriving DecidableEq, Repr

namespace Host

/-! ### Numbers -/

/-- The value of a digit in a base of at most 16. -/
def digit? (base : Nat) (c : Char) : Option Nat :=
  ((Http.Percent.hexValue? (.ofNat c.toNat)).map UInt8.toNat).filter fun n =>
    c.toNat < 0x80 && n < base

/-- The number that digits stand for in a base. -/
def number? (base : Nat) (cs : List Char) : Option Nat :=
  cs.foldlM (fun n c => (digit? base c).map (n * base + ·)) 0

/-- The number of a part of an IPv4 address. It is hexadecimal after `0x`, octal after another zero
and decimal otherwise. -/
def ipv4Part? : List Char → Option Nat
  | [] => none
  | '0' :: 'x' :: ds | '0' :: 'X' :: ds => number? 16 ds
  | '0' :: d :: ds => number? 8 (d :: ds)
  | ds => number? 10 ds

/-- The last part of a domain, up to a point at its end. -/
def lastPart (parts : List (List Char)) : List Char :=
  match parts.reverse with
  | [] :: part :: _ => part
  | part :: _ => part
  | [] => []

/-- Whether a domain must be an IPv4 address: its last part looks like a number. -/
def endsInNumber (parts : List (List Char)) : Bool :=
  let last := lastPart parts
  (!last.isEmpty && last.all Char.isDigit) || (ipv4Part? last).isSome

/-- The address of which some numbers are the parts. The last one fills the octets that are left. -/
def ipv4OfParts? (numbers : List Nat) : Option UInt32 :=
  match numbers.reverse with
  | [] => none
  | last :: before =>
    let left := 4 - before.length
    if before.length ≤ 3 ∧ before.all (· ≤ 255) ∧ last < Nat.pow 256 left then
      some (.ofNat (before.foldr (fun n sum => sum * 256 + n) 0 * Nat.pow 256 left + last))
    else none

/-- Reads an IPv4 address from its parts. A point at the end is not looked at. -/
def ipv4? (parts : List (List Char)) : Option UInt32 :=
  let parts := if parts.getLast? = some [] then parts.dropLast else parts
  (parts.mapM ipv4Part?).bind ipv4OfParts?

/-- An octet in decimal, without leading zeros. -/
def octet? (cs : List Char) : Option Nat :=
  match cs with
  | [] | '0' :: _ :: _ => none
  | cs => (number? 10 cs).filter (· ≤ 255)

/-- Two pieces written as four octets with points between them. -/
def dottedPieces? (cs : List Char) : Option (List UInt16) :=
  match (Text.pieces '.' cs).mapM octet? with
  | some [a, b, c, d] => some [.ofNat (a * 256 + b), .ofNat (c * 256 + d)]
  | _ => none

/-- A piece of one to four hexadecimal digits. -/
def piece? (cs : List Char) : Option UInt16 :=
  if cs.isEmpty ∨ 4 < cs.length then none else (number? 16 cs).map .ofNat

/-- Reads some pieces. At the end of an address the last two may be dotted. -/
def pieces? (atEnd : Bool) : List (List Char) → Option (List UInt16)
  | [] => some []
  | [last] => if atEnd && last.contains '.' then dottedPieces? last else (piece? last).map ([·])
  | part :: rest => do return (← piece? part) :: (← pieces? atEnd rest)

/-- Reads a side of a double colon, which may have nothing. -/
def side? (atEnd : Bool) (cs : List Char) : Option (List UInt16) :=
  if cs.isEmpty then some [] else pieces? atEnd (Text.pieces ':' cs)

/-- What stands before and after the first double colon. -/
def cut? : List Char → Option (List Char × List Char)
  | ':' :: ':' :: rest => some ([], rest)
  | c :: rest => (cut? rest).map fun (before, after) => (c :: before, after)
  | [] => none

/-- Reads an IPv6 address. A double colon stands for at least one piece. -/
def ipv6? (cs : List Char) : Option (List UInt16) :=
  match cut? cs with
  | none => (side? true cs).filter (·.length = 8)
  | some (before, after) => do
    let before ← side? false before
    let after ← side? true after
    let given := before.length + after.length
    if given ≤ 7 then some (before ++ List.replicate (8 - given) 0 ++ after) else none

/-! ### Domains -/

/-- Reads a domain or an IPv4 address. The name is percent-decoded and brought into its ASCII
form. -/
def readDomain (cs : List Char) : Except UrlError Host :=
  let decoded? := Text.Utf8.decodeChars? (Http.Percent.decode (Text.Utf8.encodeChars cs))
  match decoded?.bind Domain.ascii? with
  | none => .error .badDomain
  | some [] => .error .emptyHost
  | some name =>
    let parts := Text.pieces '.' name
    if endsInNumber parts then
      match ipv4? parts with
      | some address => .ok (.ipv4 address)
      | none => .error .badIpv4
    else .ok (.domain (.ofList name))

/-- Reads the host of a scheme that does not know domains. Control characters are encoded, and there
may be no name at all. -/
def readName (cs : List Char) : Except UrlError Host :=
  if cs.any fun c => c.toNat = 0 || c = ' ' || Domain.marks.contains c then .error .badHost
  else
    let isPrinted (b : UInt8) : Bool := 0x20 ≤ b && b < 0x7F
    .ok (.domain (.ofList (Http.Percent.encode isPrinted (Text.Utf8.encodeChars cs))))

/-- Reads a host. -/
def read (knowsDomains : Bool) (cs : List Char) : Except UrlError Host :=
  match cs with
  | '[' :: rest =>
    match rest.reverse with
    | ']' :: inner =>
      match ipv6? inner.reverse with
      | some pieces => .ok (.ipv6 pieces)
      | none => .error .badIpv6
    | _ => .error .badIpv6
  | cs => if knowsDomains then readDomain cs else readName cs

/-! ### Written form -/

/-- The four octets of an address. -/
def octets (address : UInt32) : List Nat :=
  let n := address.toNat
  [n / Nat.pow 256 3, n / Nat.pow 256 2 % 256, n / 256 % 256, n % 256]

/-- The number of zeros at the start of some pieces. -/
def leadingZeros (pieces : List UInt16) : Nat := (pieces.takeWhile (· = 0)).length

/-- The place and length of the longest run of zeros, the first one of equal length. -/
def longestZeros : List UInt16 → Nat × Nat
  | [] => (0, 0)
  | piece :: rest =>
    let here := leadingZeros (piece :: rest)
    let (place, length) := longestZeros rest
    if length ≤ here then (0, here) else (place + 1, length)

/-- Some pieces with colons between them. -/
def piecesText (pieces : List UInt16) : String :=
  String.intercalate ":" (pieces.map fun p => .ofList (Nat.toDigits 16 p.toNat))

/-- The written form of a host. -/
def text : Host → String
  | domain name => name
  | ipv4 address => String.intercalate "." ((octets address).map toString)
  | ipv6 pieces =>
    let (place, length) := longestZeros pieces
    if length < 2 then "[" ++ piecesText pieces ++ "]"
    else
      let before := piecesText (pieces.take place)
      let after := piecesText (pieces.drop (place + length))
      "[" ++ before ++ "::" ++ after ++ "]"

end Host

end Url

end PipelineConsole
