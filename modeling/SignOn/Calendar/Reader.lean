import SignOn.Calendar.Instant
import SignOn.Text.Blank
import SignOn.Text.Decimal

/-!
# Reading instants

The relaxed grammar of dates with an offset: year, month, day, one of `T`, `t` or a space, hour,
minute, second, an optional fraction, and an offset. White space is skipped before every number,
before the signs between numbers, before the offset and at the end. Faults are found from left to
right; a day that the month lacks, a year out of range and an offset of a day or more are noticed at
the end, and so is an instant that leaves the range when it is brought to UTC.

## Main definitions

* `Instant.Fault` - why a text is no instant
* `Instant.read` - the instant of characters
* `Instant.parse` - the instant of a text
-/

namespace SignOn.Instant

open Text (isSpace)

/-- Why a text is no instant. -/
inductive Fault where
  /-- The text ends where something is required. -/
  | premature
  /-- Another character is required. -/
  | invalid
  /-- A number is out of its range. -/
  | outOfRange
  /-- There is text after the offset. -/
  | trailing
  /-- The instant is out of range in UTC. -/
  | impossible
  deriving DecidableEq, Repr

/-- The wording of a fault. -/
def Fault.message : Fault → String
  | .premature => "premature end of input"
  | .invalid => "input contains invalid characters"
  | .outOfRange => "input is out of range"
  | .trailing => "trailing input"
  | .impossible => "no possible date and time matching input"

/-- The characters after white space. -/
def skipSpace (cs : List Char) : List Char := cs.dropWhile isSpace

/-- One or more leading digits. -/
def digits (cs : List Char) : Except Fault (List Char × List Char) :=
  match cs with
  | [] => .error .premature
  | c :: _ =>
    if c.isDigit then .ok (cs.takeWhile Char.isDigit, cs.dropWhile Char.isDigit)
    else .error .invalid

/-- At least one and at most `width` leading digits. -/
def digitsUpTo (width : Nat) (cs : List Char) : Except Fault (List Char × List Char) :=
  match cs with
  | [] => .error .premature
  | c :: _ =>
    if c.isDigit then
      let ds := (cs.take width).takeWhile Char.isDigit
      .ok (ds, cs.drop ds.length)
    else .error .invalid

/-- A number of one or two digits between two bounds, after white space. -/
def field (least greatest : Nat) (cs : List Char) : Except Fault (Nat × List Char) := do
  let (ds, rest) ← digitsUpTo 2 (skipSpace cs)
  let n := Decimal.value ds
  if least ≤ n ∧ n ≤ greatest then pure (n, rest) else .error .outOfRange

/-- A year after white space: up to four digits, or a sign and any number of digits. It has to fit
into thirty-two bits. -/
def yearField (cs : List Char) : Except Fault (Int × List Char) := do
  let (year, rest) ←
    match skipSpace cs with
    | '-' :: rest => (digits rest).map fun (ds, rest) => (-(Decimal.value ds : Int), rest)
    | '+' :: rest => (digits rest).map fun (ds, rest) => ((Decimal.value ds : Int), rest)
    | rest => (digitsUpTo 4 rest).map fun (ds, rest) => ((Decimal.value ds : Int), rest)
  if -2147483648 ≤ year ∧ year ≤ 2147483647 then pure (year, rest) else .error .outOfRange

/-- A given character after white space. -/
def sign (expected : Char) (cs : List Char) : Except Fault (Unit × List Char) :=
  match skipSpace cs with
  | [] => .error .premature
  | c :: rest => if c = expected then .ok ((), rest) else .error .invalid

/-- The sign between date and time. -/
def separator (cs : List Char) : Except Fault (Unit × List Char) :=
  match cs with
  | [] => .error .premature
  | c :: rest => if c = 'T' ∨ c = 't' ∨ c = ' ' then .ok ((), rest) else .error .invalid

/-- An optional point with digits, as nanoseconds; digits after the ninth are dropped. -/
def fraction (cs : List Char) : Except Fault (Nat × List Char) :=
  match cs with
  | '.' :: rest => (digits rest).map fun (ds, rest) =>
    let kept := ds.take 9
    (Decimal.value kept * Nat.pow 10 (9 - kept.length), rest)
  | _ => .ok (0, cs)

/-- Two digits that have to be there; what is missing is told apart from what is wrong by the bytes
left. -/
def twoDigits (cs : List Char) : Except Fault (Nat × List Char) :=
  match cs with
  | h :: l :: rest =>
    if h.isDigit ∧ l.isDigit then .ok (Decimal.value [h, l], rest) else .error .invalid
  | [c] => if c.utf8Size < 2 then .error .premature else .error .invalid
  | [] => .error .premature

/-- Hours and minutes of an offset, with colons or white space between them. -/
def hoursAndMinutes (cs : List Char) : Except Fault (Nat × List Char) := do
  let (hours, rest) ← twoDigits cs
  let (minutes, rest) ← twoDigits (rest.dropWhile fun c => c == ':' || isSpace c)
  if minutes < 60 then pure (hours * 3600 + minutes * 60, rest) else .error .outOfRange

/-- An offset from UTC in seconds: `Z`, `UTC` in any case, or a sign, hours and minutes. -/
def offset (cs : List Char) : Except Fault (Int × List Char) :=
  match cs with
  | u :: t :: c :: rest =>
    if u.toLower = 'u' ∧ t.toLower = 't' ∧ c.toLower = 'c' then .ok (0, rest) else zone cs
  | _ => zone cs
where
  /-- A zone letter, or a sign followed by hours and minutes. -/
  zone (cs : List Char) : Except Fault (Int × List Char) :=
    match cs with
    | [] => .error .premature
    | c :: rest =>
      if c = 'Z' ∨ c = 'z' then .ok (0, rest)
      else if c = '+' then (hoursAndMinutes rest).map fun (n, rest) => ((n : Int), rest)
      else if c = '-' ∨ c = '\u2212' then
        (hoursAndMinutes rest).map fun (n, rest) => (-(n : Int), rest)
      else .error .invalid

/-- The instant with these parts at an offset from UTC. -/
def resolve (year : Int) (month day hour minute second nano : Nat) (offset : Int) :
    Except Fault Instant :=
  -- Second sixty is kept as second fifty-nine with nanoseconds from one thousand million on.
  let leap := if second = 60 then 1 else 0
  let local? := (Date.ofParts? year month day).bind fun date =>
    ofParts? date (hour * 3600 + minute * 60 + (second - leap)) (nano + leap * nanosPerSecond)
  match local? with
  | none => .error .outOfRange
  | some i =>
    if offset.natAbs < secondsPerDay then
      match i.shift? (-offset) with
      | some j => .ok j
      | none => .error .impossible
    else .error .outOfRange

/-- The instant that characters denote. -/
def read (cs : List Char) : Except Fault Instant := do
  let (year, cs) ← yearField cs
  let (_, cs) ← sign '-' cs
  let (month, cs) ← field 1 12 cs
  let (_, cs) ← sign '-' cs
  let (day, cs) ← field 1 31 cs
  let (_, cs) ← separator cs
  let (hour, cs) ← field 0 23 cs
  let (_, cs) ← sign ':' cs
  let (minute, cs) ← field 0 59 cs
  let (_, cs) ← sign ':' cs
  let (second, cs) ← field 0 60 cs
  let (nano, cs) ← fraction cs
  let (offset, cs) ← offset (skipSpace cs)
  if skipSpace cs = [] then resolve year month day hour minute second nano offset
  else .error .trailing

/-- The instant that a text denotes. -/
def parse (s : String) : Except Fault Instant := read s.toList

end SignOn.Instant
