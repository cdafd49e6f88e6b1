import PipelineConsole.Text.Case
import PipelineConsole.Text.Composition
import PipelineConsole.Text.Printable
import PipelineConsole.Url.Domain.Letters
import PipelineConsole.Url.Domain.Sequences

/-!
# Folded names

The name of a domain can be written in many ways that mean the same. Folding leaves one of them:
letters are in lower case, variants of a letter give way to the letter, characters that show nothing
are dropped, and what remains is composed. A character that no name may have is refused. This is the
mapping that the Unicode standard lays down for domain names (UTS 46).

## Main definitions

* `Url.Domain.foldChar?` — what is read for one character
* `Url.Domain.folded?` — the folded form of a text
* `Url.Domain.isFolded` — whether folding would change nothing
-/

namespace PipelineConsole.Url.Domain

open Text

/-- Characters that show nothing and are dropped. -/
def droppedRanges : CodeRanges := [
  (0xAD, 0xAD), (0x34F, 0x34F), (0x115F, 0x1160), (0x17B4, 0x17B5), (0x180B, 0x180F),
  (0x200B, 0x200B), (0x2060, 0x2064), (0x206A, 0x206F), (0x3164, 0x3164), (0xFE00, 0xFE0F),
  (0xFEFF, 0xFEFF), (0xFFA0, 0xFFA0), (0x1BCA0, 0x1BCA3), (0x1D173, 0x1D17A), (0xE0100, 0xE01EF)]

/-- Characters that no name may have though they can be shown. Most would bring in a dot. -/
def refusedRanges : CodeRanges := [
  (0x2024, 0x2026), (0x2488, 0x249B), (0x2FF0, 0x2FFF), (0x31EF, 0x31EF), (0x33C2, 0x33C2),
  (0x33C7, 0x33C7), (0x33D8, 0x33D8), (0xFE12, 0xFE12), (0xFE19, 0xFE19), (0xFE30, 0xFE30),
  (0xFE52, 0xFE52), (0xFFFC, 0xFFFD), (0x1F100, 0x1F100)]

/-- The characters that say whether their neighbours join: the non-joiner and the joiner. -/
def isJoiner (c : Char) : Bool := c = '\u200c' || c = '\u200d'

/-- The sequence that is read for one character. -/
def sequence? (n : Nat) : Option (List Char) :=
  (wordSequences ++ arabicSequences).findSome? fun (first, sequences) =>
    if first ≤ n then (sequences[n - first]?).map String.toList else none

/-- The character that is read for a variant of it. -/
def letter? (n : Nat) : Option Char :=
  ((letterVariants ++ ideographVariants).findSome? fun (first, letters) =>
    if first ≤ n then letters.toList[n - first]? else none).or
    ((shiftedLetters.findSome? (·.image? n)).map Char.ofNat)

/-- The small letter that is read for a capital. In Cherokee the capitals are the ordinary form, and
the small letters are among the variants. -/
def smallLetter? (n : Nat) : Option Char :=
  if 0x13A0 ≤ n ∧ n ≤ 0x13F5 then none
  else (lowerRuns.findSome? (·.image? n)).map Char.ofNat

/-- What is read for one character, if a name may have it. -/
def foldChar? (c : Char) : Option (List Char) :=
  let n := c.toNat
  if n < 0x80 then some [c.toLower]
  else
    match (sequence? n).or (((letter? n).or (smallLetter? n)).map ([·])) with
    | some cs => some cs
    | none =>
      if droppedRanges.contains n then some []
      else if isJoiner c || (isPrintable c && !refusedRanges.contains n) then some [c]
      else none

/-- The folded form of a text, if a name may have all its characters. -/
def folded? (cs : List Char) : Option (List Char) :=
  (cs.mapM foldChar?).map fun parts => composed parts.flatten

/-- Whether folding would change nothing. -/
def isFolded (cs : List Char) : Bool :=
  folded? cs = some cs && cs.all fun c => foldChar? c = some [c]

end PipelineConsole.Url.Domain
