import SignOn.Calendar.Instant
import SignOn.Text.Decimal

/-!
# Written instants

An instant is written as date, `T`, time and `Z`. The fraction has the fewest of zero, three, six or
nine digits that are exact, and years outside 0 to 9999 carry a sign. A leap second has the number
after that of its second, which at the end of a minute is sixty.

## Main definitions

* `Instant.toChars` - the characters of a written instant
* `Instant.toText` - the same as a text
-/

namespace SignOn.Instant

open Decimal (fixed)

/-- How many digits a year takes: four, or more where it needs them. -/
def yearWidth (magnitude : Nat) : Nat :=
  if magnitude < 10000 then 4 else if magnitude < 100000 then 5 else 6

/-- The characters of a year; one with more than four digits, or before the year zero, carries a
sign. -/
def yearChars (year : Int) : List Char :=
  let magnitude := year.natAbs
  let digits := fixed (yearWidth magnitude) magnitude
  if year < 0 then '-' :: digits
  else if magnitude < 10000 then digits
  else '+' :: digits

/-- The characters of a fraction of a second, in the fewest exact groups of three digits. -/
def fractionChars (nano : Nat) : List Char :=
  if nano = 0 then []
  else if nano % 1000000 = 0 then '.' :: fixed 3 (nano / 1000000)
  else if nano % 1000 = 0 then '.' :: fixed 6 (nano / 1000)
  else '.' :: fixed 9 nano

/-- The characters of a written instant. -/
def toChars (i : Instant) : List Char :=
  let leap := if i.isLeap then 1 else 0
  yearChars i.date.year ++ '-' :: fixed 2 i.date.month ++ '-' :: fixed 2 i.date.day ++
    'T' :: fixed 2 (i.second / 3600) ++ ':' :: fixed 2 (i.second / 60 % 60) ++
    ':' :: fixed 2 (i.second % 60 + leap) ++ fractionChars (i.nano - leap * nanosPerSecond) ++ ['Z']

/-- The written instant. -/
def toText (i : Instant) : String := String.ofList i.toChars

end SignOn.Instant
