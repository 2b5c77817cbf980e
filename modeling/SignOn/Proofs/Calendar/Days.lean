import SignOn.Calendar.Date

/-!
# Counting days

The number of a date counts days: it grows by one from each date to the next one in the calendar,
over months of every length, leap years and the year zero. So the difference of two numbers is the
number of midnights between the dates, and no date is left out.

## Main definitions

* `Date.later?` - the date some days later, one day after the other
* `Date.DaysTo` - so many days lead from one date to another, onwards or back

## Main results

* `Date.dayNumber_of_next?` - the next date has the next number
* `Date.later?_eq_some_iff` - the number of a later date is greater by the days that passed
* `Date.daysTo_iff` - the days between two dates are the difference of their numbers
-/

namespace SignOn.Date

open Calendar

variable {d e : Date}

/-! ### The next date -/

theorem ofParts?_eq_some_iff {year : Int} {month day : Nat} :
    ofParts? year month day = some e ↔ e.year = year ∧ e.month = month ∧ e.day = day := by
  obtain ⟨y, m, n, he⟩ := e
  unfold ofParts?
  split
  next h => simp only [Option.some.injEq, mk.injEq, eq_comm]
  next h =>
    refine iff_of_false (fun hnone => by cases hnone) ?_
    rintro ⟨rfl, rfl, rfl⟩
    exact h he

theorem ofParts?_eq_none_iff {year : Int} {month day : Nat} :
    ofParts? year month day = none ↔ ¬ IsDate year month day := by
  unfold ofParts?
  split <;> simp_all

/-- The next date is the next day of the month, or else the first of the next month, or else the
first day of the next year. -/
theorem next?_eq_some_iff : d.next? = some e ↔
    (e.year = d.year ∧ e.month = d.month ∧ e.day = d.day + 1) ∨
    ¬ IsDate d.year d.month (d.day + 1) ∧
      ((e.year = d.year ∧ e.month = d.month + 1 ∧ e.day = 1) ∨
        ¬ IsDate d.year (d.month + 1) 1 ∧ e.year = d.year + 1 ∧ e.month = 1 ∧ e.day = 1) := by
  simp only [next?, Option.orElse_eq_orElse, Option.orElse_eq_or, Option.or_eq_some_iff,
    ofParts?_eq_some_iff, ofParts?_eq_none_iff]

theorem one_le_daysIn (year : Int) (month : Nat) : 1 ≤ daysIn year month := by
  unfold daysIn
  repeat' split
  all_goals decide

/-- Only the last date has no next one. -/
theorem exists_next? (h : d.Before e) : ∃ next, d.next? = some next := by
  cases hnext : d.next? with
  | some next => exact ⟨next, rfl⟩
  | none =>
    simp only [next?, Option.orElse_eq_orElse, Option.orElse_eq_or, Option.or_eq_none_iff,
      ofParts?_eq_none_iff] at hnext
    obtain ⟨hday, hmonth, hyear⟩ := hnext
    have hfirst := one_le_daysIn d.year (d.month + 1)
    have hfirst' := one_le_daysIn (d.year + 1) 1
    have hd := d.isDate
    have he := e.isDate
    simp only [IsDate] at hday hmonth hyear hd he
    simp only [Before] at h
    -- There is a later year, a later month of the year or a later day of the month.
    rcases h with h | ⟨heq, h | ⟨heq', h⟩⟩
    · omega
    · omega
    · rw [← heq, ← heq'] at he
      omega

/-- A month is over with its last day, and a year with its last month. -/
theorem dayNumber_of_next? (h : d.next? = some e) : e.dayNumber = d.dayNumber + 1 := by
  obtain ⟨year, month, day, hleast, hgreatest, hmonth, hmonth', hday, hday'⟩ := d
  obtain ⟨year', month', day', hdate'⟩ := e
  rw [next?_eq_some_iff] at h
  simp only [IsDate] at h
  simp only [dayNumber]
  rcases h with ⟨rfl, rfl, rfl⟩ | ⟨hlast, ⟨rfl, rfl, rfl⟩ | ⟨hlast', rfl, rfl, rfl⟩⟩
  · omega
  · rw [daysBeforeMonth_succ _ hmonth]
    omega
  · have hfirst := one_le_daysIn year (month + 1)
    obtain rfl : month = 12 := by omega
    have hover := daysBeforeMonth_succ year hmonth
    have hnew : daysBeforeMonth (year + 1) 1 = 0 := rfl
    rw [daysBeforeMonth_thirteen] at hover
    rw [daysBeforeYear_succ, hnew]
    split at hover
    next hleap =>
      rw [if_pos hleap]
      omega
    next hleap =>
      rw [if_neg hleap]
      omega

/-! ### Some days later -/

/-- The calendar has less than a hundred million days on either side of the year zero. -/
theorem natAbs_dayNumber_lt (d : Date) : d.dayNumber.natAbs < 100000000 := by
  obtain ⟨year, month, day, hleast, hgreatest, hmonth, hmonth', hday, hday'⟩ := d
  have hyear := daysBeforeMonth_add_le year hmonth hmonth'
  have hwhole : (if isLeapYear year then 366 else 365 : Int) ≤ 366 := by
    split <;> omega
  simp only [dayNumber, daysBeforeYear]
  omega

theorem dayNumber_inj : d.dayNumber = e.dayNumber ↔ d = e := by
  refine ⟨fun h => ?_, fun h => h ▸ rfl⟩
  rcases before_trichotomy d e with hbefore | heq | hafter
  · have := dayNumber_lt_of_before hbefore
    omega
  · exact heq
  · have := dayNumber_lt_of_before hafter
    omega

/-- The date some days later, if it is in range. -/
def later? : Nat → Date → Option Date
  | 0, d => some d
  | n + 1, d => d.next?.bind (later? n)

/-- As many days later the number is greater by as many, and every date with such a number is
reached. -/
theorem later?_eq_some_iff {n : Nat} : later? n d = some e ↔ e.dayNumber = d.dayNumber + n := by
  induction n generalizing d with
  | zero =>
    rw [later?, Option.some.injEq, eq_comm, ← dayNumber_inj]
    omega
  | succ n ih =>
    rw [later?, Option.bind_eq_some_iff]
    constructor
    · rintro ⟨next, hnext, hlater⟩
      have := dayNumber_of_next? hnext
      have := ih.1 hlater
      omega
    · intro h
      have hbefore : d.Before e := dayNumber_lt_iff.1 (by omega)
      obtain ⟨next, hnext⟩ := exists_next? hbefore
      have := dayNumber_of_next? hnext
      exact ⟨next, hnext, ih.2 (by omega)⟩

/-- So many days lead from one date to another, or back if the other date is earlier. -/
inductive DaysTo (d e : Date) : Int → Prop where
  | onwards {n : Nat} (h : later? n d = some e) : DaysTo d e n
  | back {n : Nat} (h : later? n e = some d) : DaysTo d e (-n)

/-- The days between two dates are the difference of their numbers. -/
theorem daysTo_iff {days : Int} : DaysTo d e days ↔ days = e.dayNumber - d.dayNumber := by
  constructor
  · rintro (h | h) <;> have := later?_eq_some_iff.1 h <;> omega
  · rintro rfl
    rcases Int.le_total d.dayNumber e.dayNumber with h | h
    · obtain ⟨n, hn⟩ := Int.eq_ofNat_of_zero_le (Int.sub_nonneg.2 h)
      rw [hn]
      exact .onwards (later?_eq_some_iff.2 (by omega))
    · obtain ⟨n, hn⟩ := Int.eq_ofNat_of_zero_le (Int.sub_nonneg.2 h)
      rw [show e.dayNumber - d.dayNumber = -(n : Int) by omega]
      exact .back (later?_eq_some_iff.2 (by omega))

end SignOn.Date
