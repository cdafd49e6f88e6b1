import PipelineConsole.Text.Blank

/-!
# Lists of ids

A list of ids is written with commas. Blanks around ids, blank ids and repeats do not count.

## Main definitions

* `IdList.read` — the ids of a text
-/

namespace PipelineConsole.IdList

/-- Appends the ids that are not there yet. -/
def addNew : (known : List String) → List String → List String
  | known, [] => known
  | known, id :: rest => addNew (if id ∈ known then known else known ++ [id]) rest

/-- The ids of a text, each once, in the order in which they first occur. -/
def read (raw : String) : List String :=
  let parts := (Text.pieces ',' raw.toList).map Text.trimmed
  addNew [] ((parts.filter fun p => !p.isEmpty).map .ofList)

end PipelineConsole.IdList
