/-!
# Blanks, trimming and splitting

Blank characters are those with the property `White_Space`. Trimming removes blanks at the ends of a
text, splitting cuts it at every occurrence of a separator.

## Main definitions

* `Text.isBlank` — the class of blank characters
* `Text.trim` — a text without the blanks at both ends, with list forms
* `Text.dropEnd` — removes one character at the end
* `Text.pieces` — the pieces between separators, one more than there are separators
* `Text.equalIgnoringCase` — equality up to the case of ASCII letters
-/

namespace PipelineConsole.Text

/-- A character with the property `White_Space`. -/
def isBlank (c : Char) : Bool :=
  let n := c.toNat
  (0x9 ≤ n && n ≤ 0xD) || n == 0x20 || n == 0x85 || n == 0xA0 || n == 0x1680 ||
    (0x2000 ≤ n && n ≤ 0x200A) || n == 0x2028 || n == 0x2029 || n == 0x202F || n == 0x205F ||
    n == 0x3000

/-- A list without the blanks at its start. -/
def dropBlanks (cs : List Char) : List Char := cs.dropWhile isBlank

/-- A list without the blanks at its end. -/
def dropBlanksEnd (cs : List Char) : List Char := (dropBlanks cs.reverse).reverse

/-- A list without the blanks at both ends. -/
def trimmed (cs : List Char) : List Char := dropBlanksEnd (dropBlanks cs)

/-- A text without the blanks at both ends. -/
def trim (s : String) : String := .ofList (trimmed s.toList)

/-- A text of blanks only, the empty text included. -/
def isBlankText (s : String) : Bool := s.toList.all isBlank

/-- A text without the occurrences of a character at its end. -/
def dropEnd (c : Char) (s : String) : String := .ofList (s.toList.reverse.dropWhile (· = c)).reverse

/-- The pieces of a list between the elements equal to `sep`. -/
def pieces {α : Type} [DecidableEq α] (sep : α) : List α → List (List α)
  | [] => [[]]
  | a :: rest =>
    if a = sep then [] :: pieces sep rest
    else
      match pieces sep rest with
      | [] => [[a]]
      | p :: ps => (a :: p) :: ps

/-- Equality of texts up to the case of ASCII letters. -/
def equalIgnoringCase (s t : String) : Bool :=
  s.toList.map Char.toLower = t.toList.map Char.toLower

end PipelineConsole.Text
