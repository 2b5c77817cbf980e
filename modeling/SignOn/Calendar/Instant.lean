import SignOn.Calendar.Date

/-!
# Instants

A point of time in UTC: a date, a second of that day and nanoseconds. A leap second is kept within
the second before it, as nanoseconds from one thousand million on. By the clock it follows the last
second of a minute, but any second may have one.

The span between two instants counts days of 86400 seconds; a leap second counts when one of the two
instants lies in it and the other lies later, respectively earlier, in the day.

## Main definitions

* `Instant` - a date and a time of day
* `Instant.Before` - the order of instants
* `Instant.shift?` - the instant some seconds earlier or later
* `Instant.since` - the span between two instants, in nanoseconds
* `Instant.wholeSecondsSince` - the span in seconds, truncated toward zero
-/

namespace SignOn

/-- Nanoseconds of a second. -/
def nanosPerSecond : Nat := 1000000000

/-- Seconds of a day without leap second. -/
def secondsPerDay : Nat := 86400

/-- A point of time in UTC. -/
structure Instant where
  date : Date
  second : Nat
  nano : Nat
  second_lt : second < secondsPerDay
  nano_lt : nano < 2 * nanosPerSecond
  deriving DecidableEq

namespace Instant

/-- The instant with these parts, if there is one. -/
def ofParts? (date : Date) (second nano : Nat) : Option Instant :=
  if h : second < secondsPerDay ∧ nano < 2 * nanosPerSecond then
    some ⟨date, second, nano, h.1, h.2⟩
  else none

/-- Whether an instant lies in a leap second. -/
def isLeap (i : Instant) : Bool := nanosPerSecond ≤ i.nano

/-- Earlier by date, then by second of the day, then by nanosecond. -/
def Before (i j : Instant) : Prop :=
  i.date.Before j.date ∨
    i.date = j.date ∧ (i.second < j.second ∨ i.second = j.second ∧ i.nano < j.nano)

instance (i j : Instant) : Decidable (Before i j) := by unfold Before; infer_instance

theorem before_trichotomy (i j : Instant) : i.Before j ∨ i = j ∨ j.Before i := by
  obtain ⟨id, is, ina, _, _⟩ := i
  obtain ⟨jd, js, jn, _, _⟩ := j
  simp only [Before, Instant.mk.injEq]
  rcases Date.before_trichotomy id jd with h | rfl | h
  · exact .inl (.inl h)
  · rcases Nat.lt_trichotomy is js with h | rfl | h
    · exact .inl (.inr ⟨rfl, .inl h⟩)
    · rcases Nat.lt_trichotomy ina jn with h | rfl | h
      · exact .inl (.inr ⟨rfl, .inr ⟨rfl, h⟩⟩)
      · exact .inr (.inl ⟨rfl, rfl, rfl⟩)
      · exact .inr (.inr (.inr ⟨rfl, .inr ⟨rfl, h⟩⟩))
    · exact .inr (.inr (.inr ⟨rfl, .inl h⟩))
  · exact .inr (.inr (.inl h))

/-- The instant `seconds` later, for less than a day; a leap second stays one. -/
def shift? (i : Instant) (seconds : Int) : Option Instant :=
  let moved := i.second + seconds
  if moved < 0 then
    i.date.previous?.bind fun date => ofParts? date (moved + secondsPerDay).toNat i.nano
  else if moved < secondsPerDay then ofParts? i.date moved.toNat i.nano
  else i.date.next?.bind fun date => ofParts? date (moved - secondsPerDay).toNat i.nano

/-! ### Spans -/

/-- The leap second between two times of day, if one of them lies in it: added when the first comes
after the second, which is a leap second, and taken off when the first comes before the second and
is a leap second itself. -/
def leapCorrection (later earlier : Instant) : Int :=
  -- A leap second has the number of the second before it, so it is counted apart.
  if earlier.second < later.second then if earlier.isLeap then 1 else 0
  else if later.second < earlier.second then if later.isLeap then -1 else 0
  else 0

/-- The span between two instants in nanoseconds; negative when the second one comes later. -/
def since (later earlier : Instant) : Int :=
  ((later.date.dayNumber - earlier.date.dayNumber) * secondsPerDay +
      (later.second - earlier.second) + leapCorrection later earlier) * nanosPerSecond +
    (later.nano - earlier.nano)

/-- The whole seconds of a span, truncated toward zero. -/
def wholeSecondsSince (later earlier : Instant) : Int :=
  (later.since earlier).tdiv nanosPerSecond

end Instant

end SignOn
