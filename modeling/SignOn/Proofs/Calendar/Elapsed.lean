import SignOn.Calendar.Duration
import SignOn.Proofs.Calendar.Days

/-!
# Elapsed time

Outside leap seconds, the span between two instants is the exact time that passed: the days that
lead from one date to the other, and the difference of the times of day.

A clock that knows no leap seconds shows the second before a leap second twice. The span is what
such a clock gains, and one second more for each leap second that counts: one that the later instant
lies in counts from the second of the day on that the span started at, and one that the span started
in counts later in the day. So a leap second that counted may count no longer a little later, and
then the span from the same start gets shorter.

## Main definitions

* `Instant.Elapsed` - the exact time from one instant to another
* `Instant.clock` - what a clock without leap seconds shows
* `Instant.leapsCounted` - the leap seconds that count
* `Instant.StepsBack` - the clock gains less than the leap seconds that count no longer
* `Instant.elapsed?` - the span in steps, each of which has to be a duration

## Main results

* `Instant.elapsed_iff_of_not_leap` - a span outside leap seconds is exact
* `Instant.stepsBack_iff` - where a span gets shorter
* `Instant.StepsBack.exists_leap`, `Instant.StepsBack.lt_two_seconds` - only around leap seconds,
  and by less than two seconds
* `Instant.exists_elapsed?` - no step leaves the range of durations
-/

namespace SignOn

namespace Instant

variable {created earlier later now : Instant} {x : Int}

/-! ### Exact time -/

/-- The exact time from one instant to another in nanoseconds: a day for each midnight that lies
between them, and the difference of the times of day. -/
def Elapsed (created now : Instant) (x : Int) : Prop :=
  ∃ days, Date.DaysTo created.date now.date days ∧
    x = (days * secondsPerDay + (now.second - created.second)) * nanosPerSecond +
      (now.nano - created.nano)

/-- Outside leap seconds a span is exact. -/
theorem elapsed_iff_of_not_leap (hcreated : created.isLeap = false) (hnow : now.isLeap = false) :
    Elapsed created now x ↔ x = now.since created := by
  have hcorrection : leapCorrection now created = 0 := by
    simp only [leapCorrection, hcreated, hnow, Bool.false_eq_true, if_false, ite_self]
  simp only [Elapsed, Date.daysTo_iff, exists_eq_left, since, hcorrection, Int.add_zero]

/-! ### Leap seconds -/

/-- The seconds that a clock without leap seconds shows: during a leap second it shows the second
before again. -/
def seconds (i : Instant) : Int := i.date.dayNumber * secondsPerDay + i.second

/-- The same in nanoseconds. -/
def clock (i : Instant) : Int := i.seconds * nanosPerSecond + i.nano % nanosPerSecond

/-- One for a leap second. -/
def leapSeconds (i : Instant) : Nat := if i.isLeap then 1 else 0

/-- The leap seconds that count in the time since an instant: the one that time has come to, unless
it lies earlier in the day than the start, and the one in which the time started, later in the
day. -/
def leapsCounted (created now : Instant) : Nat :=
  (if created.second ≤ now.second then now.leapSeconds else 0) +
    (if created.second < now.second then created.leapSeconds else 0)

theorem leapSeconds_le_one (i : Instant) : i.leapSeconds ≤ 1 := by
  rw [leapSeconds]
  split <;> decide

theorem leapSeconds_of_not_leap {i : Instant} (h : i.isLeap = false) : i.leapSeconds = 0 := by
  rw [leapSeconds, h]
  rfl

theorem nano_eq (i : Instant) :
    (i.nano : Int) = i.nano % nanosPerSecond + i.leapSeconds * nanosPerSecond := by
  have hnano := i.nano_lt
  cases hleap : i.isLeap with
  | false =>
    have hlt : ¬ nanosPerSecond ≤ i.nano := of_decide_eq_false hleap
    simp only [leapSeconds, hleap, Bool.false_eq_true, if_false, nanosPerSecond] at *
    omega
  | true =>
    have hle : nanosPerSecond ≤ i.nano := of_decide_eq_true hleap
    simp only [leapSeconds, hleap, if_true, nanosPerSecond] at *
    omega

theorem leapsCounted_le_two (created now : Instant) : leapsCounted created now ≤ 2 := by
  have hnow := now.leapSeconds_le_one
  have hcreated := created.leapSeconds_le_one
  rw [leapsCounted]
  split <;> split <;> omega

/-- Within a second only its own leap second can come or go. -/
theorem leapsCounted_le_add_one (created : Instant) (h : earlier.second = later.second) :
    leapsCounted created earlier ≤ leapsCounted created later + 1 := by
  have hearlier := earlier.leapSeconds_le_one
  simp only [leapsCounted, h]
  split <;> omega

/-- The correction of a span sees to it that leap seconds count. -/
theorem leapsCounted_eq (created now : Instant) :
    (leapsCounted created now : Int) = now.leapSeconds + leapCorrection now created := by
  simp only [leapsCounted, leapCorrection, leapSeconds]
  rcases Nat.lt_trichotomy created.second now.second with h | h | h
  · cases now.isLeap <;> cases created.isLeap <;> simp [h, Nat.le_of_lt h]
  · cases now.isLeap <;> simp [h]
  · cases now.isLeap <;> simp [h, Nat.not_le_of_lt h, Nat.not_lt_of_lt h]

/-- A span is what the clock gains, and the leap seconds that count without the one in which it
started. -/
theorem since_eq (now created : Instant) :
    now.since created = now.clock - created.clock +
      ((leapsCounted created now : Int) - created.leapSeconds) * nanosPerSecond := by
  rw [leapsCounted_eq, since, clock, clock, seconds, seconds, nano_eq now, nano_eq created]
  simp only [nanosPerSecond, secondsPerDay]
  omega

/-! ### Spans that get shorter -/

/-- Between two instants, the clock gains less than the leap seconds that counted in the time since
an earlier one and count no longer. -/
def StepsBack (created earlier later : Instant) : Prop :=
  later.clock - earlier.clock <
    ((leapsCounted created earlier : Int) - leapsCounted created later) * nanosPerSecond

instance (created earlier later : Instant) : Decidable (StepsBack created earlier later) :=
  inferInstanceAs (Decidable (_ < _))

/-- That is where the span since that instant gets shorter. -/
theorem stepsBack_iff :
    StepsBack created earlier later ↔ later.since created < earlier.since created := by
  rw [StepsBack, since_eq, since_eq]
  simp only [nanosPerSecond]
  omega

/-- Time goes on within a second or to a later one. -/
theorem seconds_cases (horder : ¬ later.Before earlier) :
    (earlier.seconds = later.seconds ∧ earlier.nano ≤ later.nano) ∨
      earlier.seconds < later.seconds := by
  have hearlier := earlier.second_lt
  have hlater := later.second_lt
  rw [Before, not_or, not_and, ← Date.dayNumber_lt_iff, ← Date.dayNumber_inj] at horder
  simp only [seconds, secondsPerDay] at *
  omega

theorem second_eq_of_seconds_eq (h : earlier.seconds = later.seconds) :
    earlier.second = later.second := by
  have hearlier := earlier.second_lt
  have hlater := later.second_lt
  simp only [seconds, secondsPerDay] at *
  omega

/-- Only within a second the clock may go back, from the second to the leap second after it. -/
theorem clock_lt_of_seconds_lt (h : earlier.seconds < later.seconds) :
    earlier.clock < later.clock := by
  simp only [clock, nanosPerSecond]
  omega

theorem lt_clock_add (horder : ¬ later.Before earlier) :
    earlier.clock < later.clock + nanosPerSecond := by
  rcases seconds_cases horder with ⟨h, -⟩ | h
  · simp only [clock, nanosPerSecond]
    omega
  · have := clock_lt_of_seconds_lt h
    simp only [nanosPerSecond]
    omega

/-- It takes a leap second, at the start of the span or at one of the two instants. -/
theorem StepsBack.exists_leap (h : StepsBack created earlier later)
    (horder : ¬ later.Before earlier) :
    created.isLeap = true ∨ earlier.isLeap = true ∨ later.isLeap = true := by
  refine Decidable.byContradiction fun hnone => ?_
  simp only [not_or, Bool.not_eq_true] at hnone
  obtain ⟨hcreated, hearlier, hlater⟩ := hnone
  have hnano := earlier.nano_eq
  have hnano' := later.nano_eq
  rw [leapSeconds_of_not_leap hearlier] at hnano
  rw [leapSeconds_of_not_leap hlater] at hnano'
  simp only [StepsBack, leapsCounted, leapSeconds_of_not_leap, hcreated, hearlier, hlater, ite_self]
    at h
  rcases seconds_cases horder with ⟨hsame, hle⟩ | hlt
  · simp only [clock, hsame] at h
    omega
  · have := clock_lt_of_seconds_lt hlt
    omega

/-- The clock gains less than two seconds meanwhile, and the span loses less than two. -/
theorem StepsBack.lt_two_seconds (h : StepsBack created earlier later)
    (horder : ¬ later.Before earlier) :
    later.clock - earlier.clock < 2 * nanosPerSecond ∧
      earlier.since created - later.since created < 2 * nanosPerSecond := by
  rw [since_eq, since_eq]
  rw [StepsBack] at h
  rcases seconds_cases horder with ⟨hsame, -⟩ | hlt
  · have hgain := lt_clock_add horder
    have hcounted := leapsCounted_le_add_one created (second_eq_of_seconds_eq hsame)
    simp only [nanosPerSecond] at *
    omega
  · have hgain := clock_lt_of_seconds_lt hlt
    have hcounted := leapsCounted_le_two created earlier
    simp only [nanosPerSecond] at *
    omega

end Instant

/-! ### No overflow -/

namespace Duration

/-- The duration of these nanoseconds, if it is in range. -/
def ofNanos? (nanos : Int) : Option Duration :=
  if h : nanos.natAbs ≤ 9223372036854775807 * 1000000 then some ⟨nanos, h⟩ else none

/-- The sum of two durations, if it is in range. -/
def add? (d e : Duration) : Option Duration := ofNanos? (d.nanos + e.nanos)

theorem ofNanos?_eq_some_iff {nanos : Int} {d : Duration} :
    ofNanos? nanos = some d ↔ d.nanos = nanos := by
  obtain ⟨n, hn⟩ := d
  unfold ofNanos?
  split
  next h => simp only [Option.some.injEq, mk.injEq, eq_comm]
  next h =>
    refine iff_of_false (fun hnone => by cases hnone) ?_
    rintro rfl
    exact h hn

end Duration

namespace Instant

/-- The span between two instants in steps, each of which has to be a duration: the days, the
difference of the times of day, and the sum of both. -/
def elapsed? (later earlier : Instant) : Option Duration := do
  let days ← Duration.ofNanos?
    ((later.date.dayNumber - earlier.date.dayNumber) * secondsPerDay * nanosPerSecond)
  let ofDay ← Duration.ofNanos?
    ((later.second - earlier.second + leapCorrection later earlier) * nanosPerSecond +
      (later.nano - earlier.nano))
  days.add? ofDay

theorem natAbs_leapCorrection_le (later earlier : Instant) :
    (leapCorrection later earlier).natAbs ≤ 1 := by
  unfold leapCorrection
  repeat' split
  all_goals decide

/-- A hundred million days either way are far from the limits of a duration. -/
theorem exists_elapsed? (later earlier : Instant) :
    ∃ d, later.elapsed? earlier = some d ∧ d.nanos = later.since earlier := by
  have hday := later.date.natAbs_dayNumber_lt
  have hday' := earlier.date.natAbs_dayNumber_lt
  have hsecond := later.second_lt
  have hsecond' := earlier.second_lt
  have hnano := later.nano_lt
  have hnano' := earlier.nano_lt
  have hcorrection := natAbs_leapCorrection_le later earlier
  simp only [elapsed?, Option.bind_eq_bind, Option.bind_eq_some_iff, Duration.add?,
    Duration.ofNanos?_eq_some_iff]
  simp only [secondsPerDay, nanosPerSecond, since] at *
  refine ⟨⟨_, ?_⟩, ⟨⟨_, ?_⟩, rfl, ⟨_, ?_⟩, rfl, rfl⟩, ?_⟩
  · simp only
    omega
  · omega
  · omega
  · simp only
    omega

end Instant

end SignOn
