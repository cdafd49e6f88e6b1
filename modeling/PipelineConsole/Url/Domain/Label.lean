import PipelineConsole.Text.Direction
import PipelineConsole.Text.Joining
import PipelineConsole.Url.Domain.Folding
import PipelineConsole.Url.Domain.Punycode

/-!
# Labels

The name of a domain is a sequence of labels with dots between them. A label may have characters
beyond ASCII; it is then known by an ASCII form, which starts with `xn--`, and may be written in
that form as well. A label is refused if its characters cannot be shown without doubt: it starts
with a mark, a joiner stands where nothing joins, or letters of both directions are mixed.

## Main definitions

* `Url.Domain.Label`, `Label.read?` — labels
* `Label.isWellFormed` — the rules of a label by itself
* `Label.keepsDirection` — the rule of a label in a name with letters from right to left
-/

namespace PipelineConsole.Url.Domain

open Text

/-- A label of a name. -/
structure Label where
  /-- The characters that are shown. -/
  shown : List Char
  /-- The ASCII form. -/
  ascii : List Char
  deriving DecidableEq, Repr

namespace Label

/-! ### Rules -/

/-- Whether the nearest character that does not let its neighbours join is of a class. -/
def reaches (isJoining : Char → Bool) (cs : List Char) : Bool :=
  match cs.dropWhile letsJoin with
  | c :: _ => isJoining c
  | [] => false

/-- Whether a joiner may stand behind `before` (nearest first) and before `after`. Either may follow
a sign that takes away a vowel; the non-joiner may also keep two letters apart that would join. -/
def mayStand (joiner : Char) (before after : List Char) : Bool :=
  match before with
  | [] => false
  | c :: _ =>
    combiningClass c = 9 ||
      (joiner = '\u200c' && reaches joinsNext before && reaches joinsPrevious after)

/-- Whether all joiners of a text behind `before` (nearest first) may stand there. -/
def joinersMayStand : (before text : List Char) → Bool
  | _, [] => true
  | before, c :: rest =>
    (!isJoiner c || mayStand c before rest) && joinersMayStand (c :: before) rest

/-- The rules of a label by itself. -/
def isWellFormed (l : Label) : Bool :=
  !(l.shown.take 1).any isMark && joinersMayStand [] l.shown

/-- Whether a label has a character that makes a name run from right to left. -/
def turns (l : Label) : Bool :=
  l.shown.any fun c => direction c = .rightToLeft || direction c = .arabicNumber

/-- The rule of a label in a name with letters from right to left: it starts with a letter, has no
letters of the other direction, and ends with a letter or a digit. From right to left, it has digits
of one kind only. -/
def keepsDirection (l : Label) : Bool :=
  match l.shown.map direction with
  | [] => true
  | first :: rest =>
    -- Marks at the end belong to what is before them.
    let others := rest.reverse.dropWhile (· = .mark)
    let ends := others.take 1
    match first with
    | .leftToRight =>
      ends.all (· ∈ [.leftToRight, .europeanNumber]) &&
        others.all (· ∉ [.rightToLeft, .arabicNumber])
    | .rightToLeft =>
      ends.all (· ∈ [.rightToLeft, .europeanNumber, .arabicNumber]) &&
        !others.contains .leftToRight &&
        !(others.contains .europeanNumber && others.contains .arabicNumber)
    | _ => false

/-! ### Reading -/

/-- The longest label that is encoded. -/
def longestShown : Nat := 1000

/-- The longest text that is decoded. -/
def longestEncoded : Nat := 2000

/-- Whether all characters are of ASCII. -/
def isAscii (cs : List Char) : Bool := cs.all (·.toNat < 0x80)

/-- What a label says behind the start of an ASCII form. -/
def encoded? : List Char → Option (List Char)
  | 'x' :: 'n' :: '-' :: '-' :: cs => some cs
  | _ => none

/-- The label of an ASCII form. It must be needed for its characters, which must be folded. -/
def decode? (cs : List Char) : Option Label := do
  guard (isAscii cs && cs.length ≤ longestEncoded)
  let shown ← Punycode.decode? cs
  guard (!isAscii shown && isFolded shown && (encoded? shown).isNone)
  return { shown, ascii := "xn--".toList ++ cs }

/-- Reads a folded label. -/
def read? (cs : List Char) : Option Label :=
  match encoded? cs with
  | some cs => decode? cs
  | none =>
    if isAscii cs then some { shown := cs, ascii := cs }
    else if cs.length ≤ longestShown then
      some { shown := cs, ascii := "xn--".toList ++ Punycode.encode cs }
    else none

end Label

end PipelineConsole.Url.Domain
