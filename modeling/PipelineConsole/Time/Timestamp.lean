/-!
# Timestamps

A timestamp is a date of the proleptic Gregorian calendar, a second of the day and nanoseconds, in
universal time. A leap second is the 59th second of a minute with a whole second more of
nanoseconds.

## Main definitions

* `Date`, `Timestamp` — with their ranges
* `Date.next?`, `Date.previous?` — the neighbouring days
* `Timestamp.text` — the printed form
-/

namespace PipelineConsole

/-- The last day of a month. -/
def daysInMonth (year : Int) (month : Nat) : Nat :=
  if month = 2 then
    if year % 4 = 0 ∧ (year % 100 ≠ 0 ∨ year % 400 = 0) then 29 else 28
  else if month = 4 ∨ month = 6 ∨ month = 9 ∨ month = 11 then 30
  else 31

/-- The years that can be represented. -/
def YearInRange (year : Int) : Prop := -262143 ≤ year ∧ year ≤ 262142

instance (year : Int) : Decidable (YearInRange year) :=
  inferInstanceAs (Decidable (_ ∧ _))

/-- A day of the calendar. -/
structure Date where
  year : Int
  month : Nat
  day : Nat
  valid : YearInRange year ∧ (1 ≤ month ∧ month ≤ 12) ∧ 1 ≤ day ∧ day ≤ daysInMonth year month
  deriving DecidableEq, Repr

namespace Date

/-- The day with the given year, month and day of the month, if there is one. -/
def of? (year : Int) (month day : Nat) : Option Date :=
  if h : _ then some ⟨year, month, day, h⟩ else none

/-- The day after. -/
def next? (d : Date) : Option Date :=
  of? d.year d.month (d.day + 1) <|> of? d.year (d.month + 1) 1 <|> of? (d.year + 1) 1 1

/-- The day before. -/
def previous? (d : Date) : Option Date :=
  if 1 < d.day then of? d.year d.month (d.day - 1)
  else if 1 < d.month then of? d.year (d.month - 1) (daysInMonth d.year (d.month - 1))
  else of? (d.year - 1) 12 31

end Date

/-- A moment: nanoseconds from `10^9` on belong to a leap second. -/
structure Timestamp where
  date : Date
  second : Nat
  nano : Nat
  valid : second < 86400 ∧ nano < 2000000000 ∧ (1000000000 ≤ nano → second % 60 = 59)
  deriving DecidableEq, Repr

namespace Timestamp

/-- The moment with the given parts, if there is one. -/
def of? (date : Date) (second nano : Nat) : Option Timestamp :=
  if h : _ then some ⟨date, second, nano, h⟩ else none

/-- The moment that a clock `offset` seconds ahead of universal time shows as the given local date
and second. The offset is less than a day. -/
def ofLocal? (date : Date) (second nano : Nat) (offset : Int) : Option Timestamp :=
  let moved := (second : Int) - offset
  if moved < 0 then do of? (← date.previous?) (moved + 86400).toNat nano
  else if 86400 ≤ moved then do of? (← date.next?) (moved - 86400).toNat nano
  else of? date moved.toNat nano

/-- The digits of a number, with zeros in front up to a width. -/
def padded (width n : Nat) : List Char :=
  let ds := Nat.toDigits 10 n
  List.replicate (width - ds.length) '0' ++ ds

/-- The year: four digits from 0 to 9999, else a sign and at least four digits. -/
def yearChars (year : Int) : List Char :=
  if 0 ≤ year ∧ year ≤ 9999 then padded 4 year.toNat
  else (if year < 0 then '-' else '+') :: padded 4 year.natAbs

/-- The fraction of a second: none, or 3, 6 or 9 digits, the fewest that lose nothing. -/
def fractionChars (nano : Nat) : List Char :=
  if nano = 0 then []
  else if nano % 1000000 = 0 then '.' :: padded 3 (nano / 1000000)
  else if nano % 1000 = 0 then '.' :: padded 6 (nano / 1000)
  else '.' :: padded 9 nano

/-- The second of the minute, which is 60 for a leap second. -/
def secondOfMinute (t : Timestamp) : Nat := t.second % 60 + t.nano / 1000000000

/-- The printed form of a moment. -/
def chars (t : Timestamp) : List Char :=
  yearChars t.date.year ++ '-' :: padded 2 t.date.month ++ '-' :: padded 2 t.date.day ++ 'T' ::
    padded 2 (t.second / 3600) ++ ':' :: padded 2 (t.second / 60 % 60) ++ ':' ::
    padded 2 t.secondOfMinute ++ fractionChars (t.nano % 1000000000) ++ ['Z']

/-- The printed form of a moment. -/
def text (t : Timestamp) : String := .ofList t.chars

end Timestamp

end PipelineConsole
