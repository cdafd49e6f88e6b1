import PipelineConsole.Text.Blank
import PipelineConsole.Time.Timestamp

/-!
# Reading timestamps

The reader accepts a relaxed form of the Internet date and time format: numbers may have fewer
digits than usual, blanks may stand before numbers and separators, the date and the time are parted
by `T`, `t` or a space, and the offset is `Z`, `UTC` or hours and minutes with an optional colon.

## Main definitions

* `TimestampError` — why a text is no timestamp, with `TimestampError.message`
* `Timestamp.read` — the reader
-/

namespace PipelineConsole

/-- Why a text is no timestamp. -/
inductive TimestampError where
  | invalid
  | outOfRange
  | premature
  | trailing
  | impossible
  deriving DecidableEq, Repr

/-- The wording of an error. -/
def TimestampError.message : TimestampError → String
  | .invalid => "input contains invalid characters"
  | .outOfRange => "input is out of range"
  | .premature => "premature end of input"
  | .trailing => "trailing input"
  | .impossible => "no possible date and time matching input"

namespace Timestamp

/-- The result of a step of the reader, which returns a value with the rest of the text. -/
abbrev Reading := Except TimestampError

/-- The greatest number that a run of digits may spell. -/
def maxNumber : Nat := Nat.pow 2 63 - 1

/-- The number spelled by a list of digits. -/
def digitsValue (ds : List Char) : Nat := ds.foldl (fun n d => n * 10 + (d.toNat - 0x30)) 0

/-- One to `width` digits. -/
def number (width : Nat) (cs : List Char) : Reading (Nat × List Char) :=
  match (cs.take width).takeWhile Char.isDigit with
  | [] => .error (if cs.isEmpty then .premature else .invalid)
  | ds =>
    if digitsValue ds ≤ maxNumber then .ok (digitsValue ds, cs.drop ds.length)
    else .error .outOfRange

/-- One to `width` digits behind blanks, in the range from `low` to `high`. -/
def ranged (width low high : Nat) (cs : List Char) : Reading (Nat × List Char) := do
  let (n, rest) ← number width (Text.dropBlanks cs)
  if low ≤ n ∧ n ≤ high then .ok (n, rest) else .error .outOfRange

/-- A separator behind blanks. -/
def separator (sep : Char) (cs : List Char) : Reading (List Char) :=
  match Text.dropBlanks cs with
  | [] => .error .premature
  | c :: rest => if c = sep then .ok rest else .error .invalid

/-- A year that fits 32 bits. -/
def yearWithin (year : Int) (rest : List Char) : Reading (Int × List Char) :=
  let limit := Nat.pow 2 31
  if -(limit : Int) ≤ year ∧ year < limit then .ok (year, rest) else .error .outOfRange

/-- A year: up to four digits, or a sign and any number of digits. -/
def year (cs : List Char) : Reading (Int × List Char) := do
  match Text.dropBlanks cs with
  | '-' :: rest =>
    let (n, rest) ← number rest.length rest
    yearWithin (-n) rest
  | '+' :: rest =>
    let (n, rest) ← number rest.length rest
    yearWithin n rest
  | cs =>
    let (n, rest) ← number 4 cs
    yearWithin n rest

/-- The nanoseconds behind a point: up to nine digits count, more are skipped. -/
def fraction (cs : List Char) : Reading (Nat × List Char) :=
  match cs with
  | '.' :: rest => do
    let (n, after) ← number 9 rest
    .ok (n * Nat.pow 10 (9 - (rest.length - after.length)), after.dropWhile Char.isDigit)
  | cs => .ok (0, cs)

/-- Two digits; a single character of more than one octet is as good as two wrong ones. -/
def twoDigits (cs : List Char) : Reading ((Nat × Nat) × List Char) :=
  match cs with
  | [] => .error .premature
  | [c] => .error (if c.toNat < 0x80 then .premature else .invalid)
  | a :: b :: rest =>
    if a.isDigit && b.isDigit then .ok ((a.toNat - 0x30, b.toNat - 0x30), rest)
    else .error .invalid

/-- Hours and minutes, possibly parted by colons and blanks, in seconds. -/
def hoursMinutes (cs : List Char) : Reading (Nat × List Char) := do
  let ((h₁, h₂), rest) ← twoDigits cs
  let ((m₁, m₂), rest) ← twoDigits (rest.dropWhile fun c => c = ':' || Text.isBlank c)
  if 6 ≤ m₁ then .error .outOfRange
  else .ok ((h₁ * 10 + h₂) * 3600 + (m₁ * 10 + m₂) * 60, rest)

/-- The offset from universal time in seconds. -/
def offset (cs : List Char) : Reading (Int × List Char) :=
  match cs with
  | a :: b :: c :: rest =>
    if a.toUpper = 'U' ∧ b.toUpper = 'T' ∧ c.toUpper = 'C' then .ok (0, rest) else signed cs
  | _ => signed cs
where
  /-- `Z`, or a sign with hours and minutes. -/
  signed (cs : List Char) : Reading (Int × List Char) :=
    match cs with
    | [] => .error .premature
    | c :: rest =>
      if c = 'Z' ∨ c = 'z' then .ok (0, rest)
      else if c = '+' then (hoursMinutes rest).map fun (n, rest) => ((n : Int), rest)
      else if c = '-' ∨ c = '−' then (hoursMinutes rest).map fun (n, rest) => (-(n : Int), rest)
      else .error .invalid

/-- The letter or space between the date and the time. -/
def timeMark (cs : List Char) : Reading (List Char) :=
  match cs with
  | [] => .error .premature
  | c :: rest => if c = 'T' ∨ c = 't' ∨ c = ' ' then .ok rest else .error .invalid

/-- The moment with the given local parts; second 60 is a leap second. -/
def ofParts (year : Int) (month day hour minute second nano : Nat) (offset : Int) :
    Reading Timestamp :=
  match Date.of? year month day with
  | none => .error .outOfRange
  | some date =>
    if offset ≤ -86400 ∨ 86400 ≤ offset then .error .outOfRange
    else
      -- A leap second is the second before, gone on for more than a second.
      let (second, nano) := if second = 60 then (59, nano + 1000000000) else (second, nano)
      match ofLocal? date (hour * 3600 + minute * 60 + second) nano offset with
      | none => .error .impossible
      | some t => .ok t

/-- Reads a list of characters as a timestamp. -/
def readChars (cs : List Char) : Reading Timestamp := do
  let (year, cs) ← year cs
  let (month, cs) ← ranged 2 1 12 (← separator '-' cs)
  let (day, cs) ← ranged 2 1 31 (← separator '-' cs)
  let (hour, cs) ← ranged 2 0 23 (← timeMark cs)
  let (minute, cs) ← ranged 2 0 59 (← separator ':' cs)
  let (second, cs) ← ranged 2 0 60 (← separator ':' cs)
  let (nano, cs) ← fraction cs
  let (offset, cs) ← offset (Text.dropBlanks cs)
  if (Text.dropBlanks cs).isEmpty then ofParts year month day hour minute second nano offset
  else .error .trailing

/-- Reads a text as a timestamp. -/
def read (s : String) : Reading Timestamp := readChars s.toList

end Timestamp

end PipelineConsole
