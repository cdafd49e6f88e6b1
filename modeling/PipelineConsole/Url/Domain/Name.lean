import PipelineConsole.Text.Blank
import PipelineConsole.Url.Domain.Label

/-!
# Names of domains

A name is folded before its labels are read. In its ASCII form every label is in its own.

## Main definitions

* `Url.Domain.isForbidden` — the characters that no name has, since they mean something in an
  address
* `Url.Domain.ascii?` — the ASCII form of a name
-/

namespace PipelineConsole.Url.Domain

/-- The marks that no host may have, since they mean something in an address. -/
def marks : List Char := "#/:<>?@[\\]^|".toList

/-- The ASCII characters that no domain may have. -/
def isForbidden (c : Char) : Bool :=
  c.toNat ≤ 0x20 || c.toNat = 0x7F || c = '%' || marks.contains c

/-- Whether the labels may stand beside each other. -/
def agree (labels : List Label) : Bool :=
  labels.all Label.isWellFormed && (!labels.any Label.turns || labels.all Label.keepsDirection)

/-- The ASCII form of a name, if it is one. -/
def ascii? (cs : List Char) : Option (List Char) := do
  let folded ← folded? cs
  guard !folded.any isForbidden
  let labels ← (Text.pieces '.' folded).mapM Label.read?
  guard (agree labels)
  return ['.'].intercalate (labels.map (·.ascii))

end PipelineConsole.Url.Domain
