import Mathlib.Algebra.Ring.Nat
import SignOn.Calendar.Printer
import SignOn.Calendar.Reader

/-!
# Reading written instants

The reader is relaxed and the printer is strict. What the printer writes for an instant is read as
that instant, over the whole calendar: with a leap second at the end of a minute, with any fraction
of a second, and with a year before the year zero or of more than four digits. A leap second
anywhere else is written like the second after the one it follows, and is read as that one.

Each part of the grammar gets one lemma: on what the printer writes for the part, followed by what
the printer writes next, it reads the part and leaves the rest.

## Main definitions

* `Instant.IsNumeral` - one or more digits
* `Instant.NoDigit` - what may follow a numeral
* `Instant.OnMinute` - a leap second lies at the end of a minute
* `Instant.reread` - the instant as it is read back

## Main results

* `Decimal.value_fixed` - a number below the limit of its width is read back
* `Instant.reread_eq_self_iff`, `Instant.toChars_reread` - which instants are read back unchanged,
  and that the others share their text with the one that they are read as
* `Instant.parse_toText` - what a written instant is read as
* `Instant.length_toChars_le` - a written instant has at most thirty-three characters
-/

namespace SignOn

/-! ### Results of readers -/

section Results

variable {ε α β : Type} {r : Except ε α} {b : β}

/-- A result that is mapped is a success when the result is. -/
theorem map_eq_ok_iff {f : α → β} : r.map f = .ok b ↔ ∃ a, r = .ok a ∧ f a = b := by
  cases r <;> simp [Except.map]

/-- If what is read is converted, it was read, and the same is left. -/
theorem exists_read_of_map {rest : Type} {read : Except ε (α × rest)} {f : α → β} {left : rest}
    (h : (read.map fun (a, left) => (f a, left)) = .ok (b, left)) :
    ∃ a, read = .ok (a, left) ∧ f a = b := by
  obtain ⟨⟨a, _⟩, hread, hab⟩ := map_eq_ok_iff.1 h
  obtain ⟨rfl, rfl⟩ := Prod.mk.inj hab
  exact ⟨a, hread, rfl⟩

/-- Two steps succeed when both of them do. -/
theorem bind_eq_ok_iff {next : α → Except ε β} :
    (r >>= next) = .ok b ↔ ∃ a, r = .ok a ∧ next a = .ok b := by
  cases r <;> simp [bind, Except.bind]

/-- A result that is a success. -/
theorem toOption_eq_some_iff {a : α} : r.toOption = some a ↔ r = .ok a := by
  cases r <;> simp [Except.toOption]

end Results

/-! ### Numerals of a fixed width -/

namespace Decimal

/-- A number that fits the width is read back. -/
theorem value_fixed {width n : Nat} (h : n < 10 ^ width) : value (fixed width n) = n := by
  induction width generalizing n with
  | zero => simp only [Nat.pow_zero, Nat.lt_one_iff] at h; subst h; rfl
  | succ width ih =>
    have hdiv : n / 10 < 10 ^ width := by
      rw [Nat.div_lt_iff_lt_mul (by decide)]
      simpa [Nat.pow_succ] using h
    simp only [fixed, value, List.foldl_append, List.foldl_cons, List.foldl_nil, digitValue_digit]
    have := ih hdiv
    simp only [value] at this
    rw [this]
    omega

end Decimal

namespace Instant

open Decimal (fixed value)
open Text (isSpace)

/-! ### Digits and white space -/

/-- No digit is white space. -/
theorem isSpace_of_isDigit {c : Char} (h : c.isDigit = true) : isSpace c = false := by
  simp only [Char.isDigit, Bool.and_eq_true, decide_eq_true_eq] at h
  have hlow : 48 ≤ c.toNat := h.1
  have hhigh : c.toNat ≤ 57 := h.2
  simp only [isSpace, Bool.or_eq_false_iff, Bool.and_eq_false_iff, decide_eq_false_iff_not,
    beq_eq_false_iff_ne]
  omega

/-- White space is skipped only where there is some. -/
theorem skipSpace_cons {c : Char} (h : isSpace c = false) (rest : List Char) :
    skipSpace (c :: rest) = c :: rest := by
  simp [skipSpace, h]

private theorem fixed_succ_eq_cons (width n : Nat) :
    ∃ c ds, fixed (width + 1) n = c :: ds ∧ c.isDigit = true := by
  cases hds : fixed (width + 1) n with
  | nil => simpa [hds] using Decimal.length_fixed (width + 1) n
  | cons c ds =>
    refine ⟨c, ds, rfl, @Decimal.isDigit_of_mem_fixed (width + 1) n c ?_⟩
    rw [hds]
    exact List.mem_cons_self

/-- Before a numeral nothing is skipped. -/
theorem skipSpace_fixed (width n : Nat) (rest : List Char) :
    skipSpace (fixed (width + 1) n ++ rest) = fixed (width + 1) n ++ rest := by
  obtain ⟨c, ds, hds, hc⟩ := fixed_succ_eq_cons width n
  rw [hds, List.cons_append]
  exact skipSpace_cons (isSpace_of_isDigit hc) _

/-- One or more digits. -/
def IsNumeral (ds : List Char) : Prop := ds ≠ [] ∧ ∀ c ∈ ds, c.isDigit = true

/-- No digit follows. -/
def NoDigit (rest : List Char) : Prop := ∀ c ∈ rest.head?, c.isDigit = false

theorem isNumeral_fixed (width n : Nat) : IsNumeral (fixed (width + 1) n) := by
  obtain ⟨c, ds, hds, -⟩ := fixed_succ_eq_cons width n
  exact ⟨by rw [hds]; exact List.cons_ne_nil c ds, fun c => Decimal.isDigit_of_mem_fixed⟩

theorem takeWhile_isDigit {ds rest : List Char} (hds : ∀ c ∈ ds, c.isDigit = true)
    (hrest : NoDigit rest) :
    (ds ++ rest).takeWhile Char.isDigit = ds ∧ (ds ++ rest).dropWhile Char.isDigit = rest := by
  induction ds with
  | nil =>
    cases rest with
    | nil => exact ⟨rfl, rfl⟩
    | cons c rest => simp [hrest c rfl]
  | cons d ds ih =>
    have hd : d.isDigit = true := hds d List.mem_cons_self
    have := ih fun c hc => hds c (List.mem_cons_of_mem _ hc)
    simp [hd, this]

/-- A numeral is read up to the first character that is no digit. -/
theorem digits_append {ds rest : List Char} (hds : IsNumeral ds) (hrest : NoDigit rest) :
    digits (ds ++ rest) = .ok (ds, rest) := by
  obtain ⟨htake, hdrop⟩ := takeWhile_isDigit hds.2 hrest
  obtain ⟨c, cs, rfl⟩ := List.exists_cons_of_ne_nil hds.1
  have hc : c.isDigit = true := hds.2 c List.mem_cons_self
  rw [List.cons_append] at htake hdrop ⊢
  simp only [digits, hc, if_true, htake, hdrop]

/-- A numeral that has all the digits allowed is read whole, whatever follows; a shorter one is read
up to the first character that is no digit. -/
theorem digitsUpTo_append {width : Nat} {ds rest : List Char} (hds : IsNumeral ds)
    (hlength : ds.length ≤ width) (hrest : ds.length < width → NoDigit rest) :
    digitsUpTo width (ds ++ rest) = .ok (ds, rest) := by
  have hnext : NoDigit (rest.take (width - ds.length)) := by
    intro c hc
    cases hwidth : width - ds.length with
    | zero => simp [hwidth] at hc
    | succ n =>
      rw [List.head?_take, if_neg (by omega)] at hc
      exact hrest (by omega) c hc
  have htake : ((ds ++ rest).take width).takeWhile Char.isDigit = ds := by
    rw [List.take_append, List.take_of_length_le hlength]
    exact (takeWhile_isDigit hds.2 hnext).1
  have hdrop : (ds ++ rest).drop ds.length = rest := List.drop_left
  obtain ⟨c, cs, rfl⟩ := List.exists_cons_of_ne_nil hds.1
  have hc : c.isDigit = true := hds.2 c List.mem_cons_self
  rw [List.cons_append] at htake hdrop ⊢
  simp only [digitsUpTo, hc, if_true, htake, hdrop]

/-- A numeral of any width is read up to the first character that is no digit. -/
theorem digits_fixed (width n : Nat) {rest : List Char} (hrest : NoDigit rest) :
    digits (fixed (width + 1) n ++ rest) = .ok (fixed (width + 1) n, rest) :=
  digits_append (isNumeral_fixed width n) hrest

/-- A numeral that has all the digits allowed is read whole, whatever follows. -/
theorem digitsUpTo_fixed (width n : Nat) (rest : List Char) :
    digitsUpTo (width + 1) (fixed (width + 1) n ++ rest) = .ok (fixed (width + 1) n, rest) := by
  have hlength := Decimal.length_fixed (width + 1) n
  exact digitsUpTo_append (isNumeral_fixed width n) (by omega) (by omega)

/-! ### Leap seconds -/

/-- A leap second, if the instant lies in one, follows the last second of a minute. -/
def OnMinute (i : Instant) : Prop := nanosPerSecond ≤ i.nano → i.second % 60 = 59

instance (i : Instant) : Decidable i.OnMinute := by unfold OnMinute; infer_instance

theorem onMinute_of_nano_lt {i : Instant} (h : i.nano < nanosPerSecond) : i.OnMinute :=
  fun hle => absurd h (Nat.not_lt.2 hle)

/-- The instant as it is read back: a leap second within a minute becomes the second that follows
the one it is kept in. -/
def reread (i : Instant) : Instant :=
  if h : nanosPerSecond ≤ i.nano ∧ i.second % 60 ≠ 59 then
    { date := i.date
      second := i.second + 1
      nano := i.nano - nanosPerSecond
      second_lt := by have := i.second_lt; simp only [secondsPerDay] at *; omega
      nano_lt := Nat.lt_of_le_of_lt (Nat.sub_le _ _) i.nano_lt }
  else i

theorem reread_of_onMinute {i : Instant} (h : i.OnMinute) : i.reread = i :=
  dif_neg fun hleap => hleap.2 (h hleap.1)

theorem onMinute_reread (i : Instant) : i.reread.OnMinute := by
  unfold reread
  split
  next =>
    have := i.nano_lt
    exact onMinute_of_nano_lt (show i.nano - nanosPerSecond < nanosPerSecond by omega)
  next hleap => exact fun hle => Decidable.of_not_not fun hsecond => hleap ⟨hle, hsecond⟩

/-- Unchanged are the instants outside of leap seconds, and those in a leap second at the end of a
minute. -/
theorem reread_eq_self_iff {i : Instant} : i.reread = i ↔ i.OnMinute :=
  ⟨fun h => h ▸ onMinute_reread i, reread_of_onMinute⟩

/-- An instant and what it is read as are written alike. -/
theorem toChars_reread (i : Instant) : i.reread.toChars = i.toChars := by
  unfold reread
  split
  next h =>
    have hsecond := i.second_lt
    have hnano := i.nano_lt
    have hbefore : ¬ nanosPerSecond ≤ i.nano - nanosPerSecond := by omega
    -- The minute goes on, so the next second has the same hour and the same minute.
    have hhour : (i.second + 1) / 3600 = i.second / 3600 := by omega
    have hminute : (i.second + 1) / 60 % 60 = i.second / 60 % 60 := by omega
    have hlast : (i.second + 1) % 60 = i.second % 60 + 1 := by omega
    simp only [toChars, isLeap, h.1, hbefore, decide_true, decide_false, if_true, hhour, hminute,
      hlast, Bool.false_eq_true, if_false, Nat.add_zero, Nat.zero_mul, Nat.sub_zero, Nat.one_mul]
  next => rfl

/-! ### The parts of an instant -/

/-- A field of two digits. -/
theorem field_fixed {least greatest n : Nat} (hleast : least ≤ n) (hgreatest : n ≤ greatest)
    (hn : n < 100) (rest : List Char) :
    field least greatest (fixed 2 n ++ rest) = .ok (n, rest) := by
  have hread : digitsUpTo 2 (fixed 2 n ++ rest) = .ok (fixed 2 n, rest) := digitsUpTo_fixed 1 n rest
  rw [field, skipSpace_fixed 1 n rest, hread]
  simp only [bind, Except.bind, @Decimal.value_fixed 2 n hn]
  rw [if_pos ⟨hleast, hgreatest⟩]
  rfl

/-- A sign between two numbers. -/
theorem sign_cons {c : Char} (h : isSpace c = false) (rest : List Char) :
    sign c (c :: rest) = .ok ((), rest) := by
  simp [sign, skipSpace_cons h]

/-- The sign between date and time. -/
theorem separator_cons (rest : List Char) : separator ('T' :: rest) = .ok ((), rest) := by
  simp [separator]

private theorem lt_pow_yearWidth {magnitude : Nat} (h : magnitude < 1000000) :
    magnitude < 10 ^ yearWidth magnitude := by
  unfold yearWidth
  split
  · assumption
  · split <;> assumption

private theorem yearWidth_eq_succ (magnitude : Nat) : ∃ width, yearWidth magnitude = width + 1 := by
  unfold yearWidth
  split
  · exact ⟨3, rfl⟩
  · split
    · exact ⟨4, rfl⟩
    · exact ⟨5, rfl⟩

/-- A year: the sign that it carries tells the reader how many digits to expect. -/
theorem yearField_yearChars {year : Int} (hlow : -262143 ≤ year) (hhigh : year ≤ 262142)
    (rest : List Char) :
    yearField (yearChars year ++ '-' :: rest) = .ok (year, '-' :: rest) := by
  have hvalue : value (fixed (yearWidth year.natAbs) year.natAbs) = year.natAbs :=
    Decimal.value_fixed (lt_pow_yearWidth (by omega))
  have hrange : -2147483648 ≤ year ∧ year ≤ 2147483647 := ⟨by omega, by omega⟩
  have hdash : NoDigit ('-' :: rest) := by simp [NoDigit]
  obtain ⟨width, hwidth⟩ := yearWidth_eq_succ year.natAbs
  rcases Int.lt_or_le year 0 with hneg | hnonneg
  · -- Before the year zero the sign is a hyphen, and the magnitude is negated.
    have hchars : yearChars year = '-' :: fixed (width + 1) year.natAbs := by
      simp [yearChars, hneg, hwidth]
    rw [hwidth] at hvalue
    have hyear : -(year.natAbs : Int) = year := by omega
    rw [hchars, List.cons_append, yearField, skipSpace_cons (by decide)]
    simp only [digits_fixed width year.natAbs hdash, Except.map, bind, Except.bind, hvalue, hyear]
    rw [if_pos hrange]
    rfl
  · have hyear : (year.natAbs : Int) = year := by omega
    by_cases hshort : year.natAbs < 10000
    · -- Four digits stand without a sign.
      have hfour : width + 1 = 4 := by rw [← hwidth, yearWidth, if_pos hshort]
      have hchars : yearChars year = fixed 4 year.natAbs := by
        simp [yearChars, Int.not_lt.2 hnonneg, hshort, yearWidth]
      rw [hwidth, hfour] at hvalue
      have hread : digitsUpTo 4 (fixed 4 year.natAbs ++ '-' :: rest) =
          .ok (fixed 4 year.natAbs, '-' :: rest) := digitsUpTo_fixed 3 year.natAbs _
      obtain ⟨c, ds, hds, hc⟩ := fixed_succ_eq_cons 3 year.natAbs
      rw [hchars, yearField, skipSpace_fixed 3]
      rw [hds, List.cons_append] at hread ⊢
      split
      next h => obtain ⟨rfl, -⟩ := List.cons.inj h; simp at hc
      next h => obtain ⟨rfl, -⟩ := List.cons.inj h; simp at hc
      next =>
        rw [hds] at hvalue
        simp only [hread, Except.map, bind, Except.bind, hvalue, hyear]
        rw [if_pos hrange]
        rfl
    · have hchars : yearChars year = '+' :: fixed (width + 1) year.natAbs := by
        simp [yearChars, Int.not_lt.2 hnonneg, hshort, hwidth]
      rw [hwidth] at hvalue
      rw [hchars, List.cons_append, yearField, skipSpace_cons (by decide)]
      simp only [digits_fixed width year.natAbs hdash, Except.map, bind, Except.bind, hvalue, hyear]
      rw [if_pos hrange]
      rfl

/-- A fraction of three, six or nine digits, or none at all. -/
theorem fraction_fractionChars {nano : Nat} (h : nano < nanosPerSecond) (rest : List Char) :
    fraction (fractionChars nano ++ 'Z' :: rest) = .ok (nano, 'Z' :: rest) := by
  have hz : NoDigit ('Z' :: rest) := by simp [NoDigit]
  simp only [nanosPerSecond] at h
  -- A point and `width` digits stand for the number of units of `10 ^ (9 - width)` nanoseconds.
  have hdigits : ∀ width n, width + 1 ≤ 9 → n < 10 ^ (width + 1) →
      fraction ('.' :: fixed (width + 1) n ++ 'Z' :: rest) =
        .ok (n * 10 ^ (9 - (width + 1)), 'Z' :: rest) := by
    intro width n hwidth hn
    have hkept : (fixed (width + 1) n).take 9 = fixed (width + 1) n :=
      List.take_of_length_le (by simpa using hwidth)
    simp only [List.cons_append, fraction, digits_fixed width n hz, Except.map, hkept,
      Decimal.value_fixed hn, Decimal.length_fixed, Nat.pow_eq]
  unfold fractionChars
  split
  next hzero => subst hzero; rfl
  next =>
    split
    next hmilli =>
      rw [hdigits 2 (nano / 1000000) (by decide) (by omega)]
      congr 2
      omega
    next =>
      split
      next hmicro =>
        rw [hdigits 5 (nano / 1000) (by decide) (by omega)]
        congr 2
        omega
      next =>
        rw [hdigits 8 nano (by decide) (by omega)]
        congr 2
        omega

/-- The letter at the end of a written instant is the offset zero. -/
theorem offset_zulu : offset (skipSpace ['Z']) = .ok (0, []) := rfl

/-- An instant is put together again from its parts, unless it is a leap second within a minute. -/
theorem resolve_parts (i : Instant) (hminute : i.OnMinute) :
    resolve i.date.year i.date.month i.date.day (i.second / 3600) (i.second / 60 % 60)
      (i.second % 60 + if i.isLeap then 1 else 0)
      (i.nano - (if i.isLeap then 1 else 0) * nanosPerSecond) 0 = .ok i := by
  obtain ⟨date, second, nano, hsecond, hnano⟩ := i
  have hdate : Date.ofParts? date.year date.month date.day = some date := dif_pos date.isDate
  have hparts : ofParts? date second nano = some ⟨date, second, nano, hsecond, hnano⟩ :=
    dif_pos ⟨hsecond, hnano⟩
  have hshift : shift? ⟨date, second, nano, hsecond, hnano⟩ (-0) =
      some ⟨date, second, nano, hsecond, hnano⟩ := by
    have hlow : ¬ (second : Int) + -0 < 0 := by omega
    have hhigh : (second : Int) + -0 < secondsPerDay := by omega
    have hmoved : ((second : Int) + -0).toNat = second := by omega
    simp only [shift?, hlow, if_false, hhigh, if_true, hmoved, hparts]
  -- Second sixty is written exactly for a leap second, which lies in the last second of a minute.
  have hlast : second / 3600 * 3600 + second / 60 % 60 * 60 + second % 60 = second := by omega
  by_cases hl : nanosPerSecond ≤ nano
  · have hsixty : second % 60 + 1 = 60 := congrArg (· + 1) (hminute hl)
    have hn : nano - 1 * nanosPerSecond + 1 * nanosPerSecond = nano := by omega
    have hs : second / 3600 * 3600 + second / 60 % 60 * 60 + (second % 60 + 1 - 1) = second := by
      omega
    simp only [resolve, isLeap, hl, decide_true, if_true, hdate, Option.bind_some]
    rw [if_pos hsixty, hs, hn, hparts]
    simp only [hshift]
    rfl
  · have hsixty : ¬ second % 60 + 0 = 60 := by omega
    have hn : nano - 0 * nanosPerSecond + 0 * nanosPerSecond = nano := by omega
    have hs : second / 3600 * 3600 + second / 60 % 60 * 60 + (second % 60 + 0 - 0) = second := by
      omega
    simp only [resolve, isLeap, hl, decide_false, Bool.false_eq_true, if_false, hdate,
      Option.bind_some]
    rw [if_neg hsixty, hs, hn, hparts]
    simp only [hshift]
    rfl

/-! ### Written instants -/

/-- After a part was read, the rest is read. -/
theorem bind_of_read {α β : Type} {first : Except Fault α} {a : α} (h : first = .ok a)
    (next : α → Except Fault β) : (first >>= next) = next a := by
  rw [h]
  rfl

theorem read_toChars_of_onMinute (i : Instant) (hminute : i.OnMinute) :
    read i.toChars = .ok i := by
  -- Every field is in the range that its reader asks for.
  obtain ⟨hy₁, hy₂, hm₁, hm₂, hd₁, hd₂⟩ := i.date.isDate
  have hday : i.date.day ≤ 31 := by
    refine Nat.le_trans hd₂ ?_
    unfold Calendar.daysIn
    split
    · split <;> omega
    · split <;> omega
  have hsecond := i.second_lt
  have hnano := i.nano_lt
  simp only [secondsPerDay] at hsecond
  have hsixty : i.second % 60 + (if i.isLeap then 1 else 0) ≤ 60 := by split <;> omega
  have hfraction : i.nano - (if i.isLeap then 1 else 0) * nanosPerSecond < nanosPerSecond := by
    simp only [isLeap, decide_eq_true_eq]
    split <;> omega
  have hparts := resolve_parts i hminute
  rw [toChars]
  simp only [List.append_assoc, List.cons_append, read]
  -- What a leap second adds to the second it takes from the fraction; neither matters below.
  generalize i.second % 60 + (if i.isLeap then 1 else 0) = second at *
  generalize i.nano - (if i.isLeap then 1 else 0) * nanosPerSecond = nano at *
  refine (bind_of_read (yearField_yearChars hy₁ hy₂ _) _).trans ?_
  refine (bind_of_read (sign_cons (by decide) _) _).trans ?_
  refine (bind_of_read (field_fixed hm₁ hm₂ (by omega) _) _).trans ?_
  refine (bind_of_read (sign_cons (by decide) _) _).trans ?_
  refine (bind_of_read (field_fixed hd₁ hday (by omega) _) _).trans ?_
  refine (bind_of_read (separator_cons _) _).trans ?_
  refine (bind_of_read (field_fixed (by omega) (by omega) (by omega) _) _).trans ?_
  refine (bind_of_read (sign_cons (by decide) _) _).trans ?_
  refine (bind_of_read (field_fixed (by omega) (by omega) (by omega) _) _).trans ?_
  refine (bind_of_read (sign_cons (by decide) _) _).trans ?_
  refine (bind_of_read (field_fixed (Nat.zero_le _) hsixty (by omega) _) _).trans ?_
  refine (bind_of_read (fraction_fractionChars hfraction _) _).trans ?_
  refine (bind_of_read offset_zulu _).trans ?_
  exact (if_pos (show skipSpace [] = [] from rfl)).trans hparts

theorem read_toChars (i : Instant) : read i.toChars = .ok i.reread := by
  rw [← toChars_reread, read_toChars_of_onMinute i.reread (onMinute_reread i)]

theorem toText_reread (i : Instant) : i.reread.toText = i.toText := by
  rw [toText, toText, toChars_reread]

/-- What a written instant is read as. -/
theorem parse_toText (i : Instant) : parse i.toText = .ok i.reread := by
  rw [parse, toText, String.toList_ofList, read_toChars]

/-- A written instant has at most thirty-three characters. -/
theorem length_toChars_le (i : Instant) : i.toChars.length ≤ 33 := by
  have hyear : (yearChars i.date.year).length ≤ 7 := by
    -- A sign and at most six digits: the calendar ends before the year 262143.
    have hwidth : yearWidth i.date.year.natAbs ≤ 6 := by
      unfold yearWidth
      split
      · omega
      · split <;> omega
    simp only [yearChars]
    split
    · rw [List.length_cons, Decimal.length_fixed]
      exact Nat.succ_le_succ hwidth
    · split
      · rw [Decimal.length_fixed]
        exact Nat.le_succ_of_le hwidth
      · rw [List.length_cons, Decimal.length_fixed]
        exact Nat.succ_le_succ hwidth
  have hfraction : ∀ nano, (fractionChars nano).length ≤ 10 := by
    intro nano
    unfold fractionChars
    split
    · simp
    · split
      · simp
      · split <;> simp
  have := hfraction (i.nano - (if i.isLeap = true then 1 else 0) * nanosPerSecond)
  simp only [toChars, List.length_append, List.length_cons, Decimal.length_fixed, List.length_nil]
  omega

end Instant

end SignOn
