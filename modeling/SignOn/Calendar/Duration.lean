import SignOn.Calendar.Instant

/-!
# Durations

A signed length of time in nanoseconds, of at most as many milliseconds either way as a signed
number of sixty-four bits counts.

## Main definitions

* `Duration` - nanoseconds in range
* `Duration.ofParts?` - seconds and nanoseconds of a second
* `Duration.wholeSeconds` - the seconds, truncated toward zero
-/

namespace SignOn

/-- A signed length of time in nanoseconds. -/
structure Duration where
  nanos : Int
  inRange : nanos.natAbs ≤ 9223372036854775807 * 1000000
  deriving DecidableEq

namespace Duration

/-- The duration of these seconds and these nanoseconds more, if it is in range. -/
def ofParts? (seconds : Int) (nanos : Nat) : Option Duration :=
  let total := seconds * nanosPerSecond + nanos
  if h : total.natAbs ≤ 9223372036854775807 * 1000000 then some ⟨total, h⟩ else none

/-- A whole number of seconds that fits into thirty-two bits. -/
def ofSeconds (seconds : UInt32) : Duration :=
  ⟨seconds.toNat * nanosPerSecond, by
    have := seconds.toNat_lt
    rw [← Int.natCast_mul, Int.natAbs_natCast, nanosPerSecond]
    omega⟩

/-- The whole seconds, truncated toward zero. -/
def wholeSeconds (d : Duration) : Int := d.nanos.tdiv nanosPerSecond

/-- The whole seconds of a duration fit into sixty-four bits. -/
theorem natAbs_wholeSeconds_le (d : Duration) : d.wholeSeconds.natAbs ≤ 9223372036854775807 := by
  have h := d.inRange
  rw [wholeSeconds, Int.natAbs_tdiv, Int.natAbs_natCast, nanosPerSecond]
  change d.nanos.natAbs / 1000000000 ≤ 9223372036854775807
  omega

end Duration

end SignOn
