/-!
# Calendar dates

Days of the proleptic Gregorian calendar, which has a year zero. A date is kept as year, month and
day, so that writing it needs no arithmetic; its day number serves to measure distances.

## Main definitions

* `Date` - a day that the calendar has, between the years -262143 and 262142
* `Date.ofParts?` - the date of a year, month and day
* `Date.dayNumber` - days since the first of January of the year zero
* `Date.next?`, `Date.previous?` - the neighbouring days, if they are in range

## Main results

* `Date.dayNumber_lt_iff` - day numbers order dates as year, month and day do
-/

namespace SignOn

namespace Calendar

/-- Every fourth year is a leap year, except those that a hundred but not four hundred divides. -/
def isLeapYear (year : Int) : Bool := year % 4 = 0 ∧ (year % 100 ≠ 0 ∨ year % 400 = 0)

/-- The number of days of a month. -/
def daysIn (year : Int) (month : Nat) : Nat :=
  if month = 2 then if isLeapYear year then 29 else 28
  else if month = 4 ∨ month = 6 ∨ month = 9 ∨ month = 11 then 30
  else 31

/-- The calendar has this day, and its year is in range. -/
def IsDate (year : Int) (month day : Nat) : Prop :=
  -262143 ≤ year ∧ year ≤ 262142 ∧ 1 ≤ month ∧ month ≤ 12 ∧ 1 ≤ day ∧ day ≤ daysIn year month

instance (year : Int) (month day : Nat) : Decidable (IsDate year month day) := by
  unfold IsDate; infer_instance

/-- Days from the first of January of the year zero to that of a year. -/
def daysBeforeYear (year : Int) : Int :=
  365 * year + (year + 3) / 4 - (year + 99) / 100 + (year + 399) / 400

/-- Days of a year before a month. -/
def daysBeforeMonth (year : Int) (month : Nat) : Nat :=
  (List.range (month - 1)).foldl (fun days m => days + daysIn year (m + 1)) 0

end Calendar

open Calendar

/-- A day of the proleptic Gregorian calendar. -/
structure Date where
  year : Int
  month : Nat
  day : Nat
  isDate : IsDate year month day
  deriving DecidableEq

namespace Date

/-- The date with these parts, if there is one. -/
def ofParts? (year : Int) (month day : Nat) : Option Date :=
  if h : IsDate year month day then some ⟨year, month, day, h⟩ else none

/-- Days since the first of January of the year zero. -/
def dayNumber (d : Date) : Int :=
  daysBeforeYear d.year + daysBeforeMonth d.year d.month + (d.day - 1)

/-- The next day. -/
def next? (d : Date) : Option Date :=
  ofParts? d.year d.month (d.day + 1) <|> ofParts? d.year (d.month + 1) 1 <|>
    ofParts? (d.year + 1) 1 1

/-- The day before. -/
def previous? (d : Date) : Option Date :=
  if 1 < d.day then ofParts? d.year d.month (d.day - 1)
  else if 1 < d.month then ofParts? d.year (d.month - 1) (daysIn d.year (d.month - 1))
  else ofParts? (d.year - 1) 12 31

/-- Earlier by year, then by month, then by day. -/
def Before (d e : Date) : Prop :=
  d.year < e.year ∨ d.year = e.year ∧ (d.month < e.month ∨ d.month = e.month ∧ d.day < e.day)

instance (d e : Date) : Decidable (Before d e) := by unfold Before; infer_instance

/-! ### Day numbers -/

theorem daysBeforeYear_succ (year : Int) :
    daysBeforeYear (year + 1) = daysBeforeYear year + if isLeapYear year then 366 else 365 := by
  unfold daysBeforeYear isLeapYear
  split
  next h => simp only [decide_eq_true_eq] at h; omega
  next h => simp only [decide_eq_true_eq] at h; omega

theorem daysBeforeYear_lt {a b : Int} (h : a < b) : daysBeforeYear a + 365 ≤ daysBeforeYear b := by
  unfold daysBeforeYear
  omega

theorem daysBeforeMonth_succ (year : Int) {month : Nat} (h : 1 ≤ month) :
    daysBeforeMonth year (month + 1) = daysBeforeMonth year month + daysIn year month := by
  obtain ⟨m, rfl⟩ : ∃ m, month = m + 1 := ⟨month - 1, by omega⟩
  simp [daysBeforeMonth, List.range_succ]

theorem daysBeforeMonth_lt (year : Int) {a b : Nat} (ha : 1 ≤ a) (h : a < b) :
    daysBeforeMonth year a + daysIn year a ≤ daysBeforeMonth year b := by
  induction b with
  | zero => omega
  | succ b ih =>
    rw [daysBeforeMonth_succ year (by omega)]
    rcases Nat.lt_or_ge a b with hab | hab
    · have := ih hab; omega
    · obtain rfl : a = b := by omega
      omega

/-- After the last month the year is over. -/
theorem daysBeforeMonth_thirteen (year : Int) :
    daysBeforeMonth year 13 = if isLeapYear year then 366 else 365 := by
  simp only [daysBeforeMonth, daysIn, List.range, List.range.loop, List.foldl]
  cases isLeapYear year <;> rfl

/-- The months of a year fill it. -/
theorem daysBeforeMonth_add_le (year : Int) {month : Nat} (h₁ : 1 ≤ month) (h₂ : month ≤ 12) :
    (daysBeforeMonth year month + daysIn year month : Int) ≤
      if isLeapYear year then 366 else 365 := by
  rw [← Int.natCast_add, ← daysBeforeMonth_succ year h₁]
  have hmono : daysBeforeMonth year (month + 1) ≤ daysBeforeMonth year 13 := by
    rcases Nat.lt_or_ge (month + 1) 13 with h | h
    · have := daysBeforeMonth_lt year (a := month + 1) (by omega) h; omega
    · obtain h : month + 1 = 13 := by omega
      exact Nat.le_of_eq (congrArg _ h)
  rw [daysBeforeMonth_thirteen] at hmono
  cases hleap : isLeapYear year
  · rw [hleap] at hmono
    exact Int.ofNat_le.2 hmono
  · rw [hleap] at hmono
    exact Int.ofNat_le.2 hmono

/-- Day numbers order dates as year, month and day do. -/
theorem dayNumber_lt_of_before {d e : Date} (h : d.Before e) : d.dayNumber < e.dayNumber := by
  obtain ⟨dy, dm, dd, _, _, hdm₁, hdm₂, hdd₁, hdd₂⟩ := d
  obtain ⟨ey, em, ed, _, _, hem₁, hem₂, hed₁, hed₂⟩ := e
  simp only [dayNumber, Before] at *
  rcases h with h | ⟨rfl, h | ⟨rfl, h⟩⟩
  -- An earlier year is over before a later one starts, and an earlier month before a later one.
  · have h₁ := daysBeforeMonth_add_le dy hdm₁ hdm₂
    have h₂ : daysBeforeYear dy + (if isLeapYear dy then 366 else 365) ≤ daysBeforeYear ey := by
      rw [← daysBeforeYear_succ]
      rcases Int.lt_or_le (dy + 1) ey with h' | h'
      · have := daysBeforeYear_lt h'; omega
      · obtain rfl : dy + 1 = ey := by omega
        exact Int.le_refl _
    split at h₁ <;> simp_all <;> omega
  · have := daysBeforeMonth_lt dy hdm₁ h
    omega
  · omega

theorem before_trichotomy (d e : Date) : d.Before e ∨ d = e ∨ e.Before d := by
  obtain ⟨dy, dm, dd, hd⟩ := d
  obtain ⟨ey, em, ed, he⟩ := e
  simp only [Before, Date.mk.injEq]
  omega

theorem dayNumber_lt_iff {d e : Date} : d.dayNumber < e.dayNumber ↔ d.Before e := by
  refine ⟨fun h => ?_, dayNumber_lt_of_before⟩
  rcases before_trichotomy d e with h' | rfl | h'
  · exact h'
  · omega
  · have := dayNumber_lt_of_before h'; omega

end Date

end SignOn
