import Mathlib.Data.List.TakeWhile
import SignOn.Proofs.Calendar.Written

/-!
# Spellings of an instant

The relaxed grammar of dates, as rules that say which characters spell what: with white space
between the parts, with one or two digits where the printer writes two, with a fraction of any
length, and with an offset from UTC. The reader accepts these spellings and no others, and it gives
what is spelled.

The parts follow each other without a mark at their ends, so a part is read back only if what comes
next cannot belong to it: no digit may follow a numeral, and no point a number of seconds.

## Main definitions

* `Instant.SpellsField`, `Instant.SpellsYear`, `Instant.SpellsFraction`, `Instant.SpellsOffset` - the
  parts of a date
* `Instant.SpellsDate`, `Instant.SpellsTime` - a day, and a time of the day
* `Instant.Spells` - the characters that spell an instant

## Main results

* `Instant.read_of_spells`, `Instant.spells_of_read` - the reader accepts exactly the spellings
* `Instant.parse_eq_ok_iff` - the same for texts
* `Instant.onMinute_of_read` - a leap second is read at the end of a minute only
-/

namespace SignOn.Instant

open Decimal (value)
open Text (isSpace)

/-! ### The grammar -/

/-- Nothing but white space. -/
def IsBlank (cs : List Char) : Prop := ∀ c ∈ cs, isSpace c = true

/-- A number of one or two digits between two bounds, after white space. -/
inductive SpellsField (least greatest : Nat) : Nat → List Char → Prop
  | intro {blank ds : List Char} : IsBlank blank → IsNumeral ds → ds.length ≤ 2 →
    least ≤ value ds → value ds ≤ greatest → SpellsField least greatest (value ds) (blank ++ ds)

/-- A year after white space: up to four digits, or a sign and any number of digits. -/
inductive SpellsYear : Int → List Char → Prop
  | short {blank ds : List Char} : IsBlank blank → IsNumeral ds → ds.length ≤ 4 →
    SpellsYear (value ds : Int) (blank ++ ds)
  | positive {blank ds : List Char} : IsBlank blank → IsNumeral ds →
    SpellsYear (value ds : Int) (blank ++ '+' :: ds)
  | negative {blank ds : List Char} : IsBlank blank → IsNumeral ds →
    SpellsYear (-(value ds : Int)) (blank ++ '-' :: ds)

/-- A day: year, month and day, with hyphens between them. -/
inductive SpellsDate : Int → Nat → Nat → List Char → Prop
  | intro {year : Int} {month day : Nat} {y before m before' d : List Char} :
    SpellsYear year y → IsBlank before → SpellsField 1 12 month m → IsBlank before' →
    SpellsField 1 31 day d →
    SpellsDate year month day (y ++ before ++ '-' :: m ++ before' ++ '-' :: d)

/-- A time of the day: hour, minute and second, with colons between them. There is a second sixty. -/
inductive SpellsTime : Nat → Nat → Nat → List Char → Prop
  | intro {hour minute second : Nat} {h before m before' s : List Char} :
    SpellsField 0 23 hour h → IsBlank before → SpellsField 0 59 minute m → IsBlank before' →
    SpellsField 0 60 second s →
    SpellsTime hour minute second (h ++ before ++ ':' :: m ++ before' ++ ':' :: s)

/-- A fraction of a second in nanoseconds: none at all, or a point and digits, of which the first
nine count. -/
inductive SpellsFraction : Nat → List Char → Prop
  | none : SpellsFraction 0 []
  | point {ds : List Char} : IsNumeral ds →
    SpellsFraction (value (ds.take 9) * Nat.pow 10 (9 - (ds.take 9).length)) ('.' :: ds)

/-- What may stand between hours and minutes: colons and white space. -/
def isGap (c : Char) : Bool := c == ':' || isSpace c

/-- Hours and minutes in seconds: two digits each, and a gap between them. -/
inductive SpellsHoursAndMinutes : Nat → List Char → Prop
  | intro {h h' m m' : Char} {gap : List Char} : h.isDigit = true → h'.isDigit = true →
    (∀ c ∈ gap, isGap c = true) → m.isDigit = true → m'.isDigit = true → value [m, m'] < 60 →
    SpellsHoursAndMinutes (value [h, h'] * 3600 + value [m, m'] * 60) (h :: h' :: gap ++ [m, m'])

/-- An offset from UTC in seconds. The minus sign may be a hyphen or the character U+2212. -/
inductive SpellsOffset : Int → List Char → Prop
  | utc {u t c : Char} : u.toLower = 'u' → t.toLower = 't' → c.toLower = 'c' →
    SpellsOffset 0 [u, t, c]
  | zulu {c : Char} : c = 'Z' ∨ c = 'z' → SpellsOffset 0 [c]
  | east {n : Nat} {cs : List Char} : SpellsHoursAndMinutes n cs → SpellsOffset (n : Int) ('+' :: cs)
  | west {n : Nat} {c : Char} {cs : List Char} : c = '-' ∨ c = '\u2212' →
    SpellsHoursAndMinutes n cs → SpellsOffset (-(n : Int)) (c :: cs)

/-- The characters that spell an instant: a day, a sign, a time with its fraction, and an offset, if
the calendar has this day, and has it also in UTC. -/
inductive Spells (i : Instant) : List Char → Prop
  | intro {year offset : Int} {month day hour minute second nano : Nat} {sep : Char}
    {d t f before o after : List Char} :
    SpellsDate year month day d → sep = 'T' ∨ sep = 't' ∨ sep = ' ' →
    SpellsTime hour minute second t → SpellsFraction nano f → IsBlank before →
    SpellsOffset offset o → IsBlank after →
    resolve year month day hour minute second nano offset = .ok i →
    Spells i (d ++ sep :: t ++ f ++ before ++ o ++ after)

/-! ### White space and what follows a part -/

theorem skipSpace_append {blank rest : List Char} (hblank : IsBlank blank)
    (hrest : ∀ c ∈ rest.head?, isSpace c = false) : skipSpace (blank ++ rest) = rest := by
  induction blank with
  | nil =>
    cases rest with
    | nil => rfl
    | cons c rest => exact skipSpace_cons (hrest c rfl) rest
  | cons c blank ih =>
    obtain ⟨hc, hblank⟩ := List.forall_mem_cons.1 hblank
    rw [List.cons_append, skipSpace, List.dropWhile_cons_of_pos hc]
    exact ih hblank

theorem skipSpace_append_cons {blank : List Char} {c : Char} (hblank : IsBlank blank)
    (hc : isSpace c = false) (rest : List Char) : skipSpace (blank ++ c :: rest) = c :: rest := by
  apply skipSpace_append hblank
  intro d hd
  rwa [← Option.mem_some.1 hd]

theorem skipSpace_eq_nil_iff {cs : List Char} : skipSpace cs = [] ↔ IsBlank cs :=
  List.dropWhile_eq_nil_iff

/-- White space is split off. -/
theorem exists_blank (cs : List Char) : ∃ blank, IsBlank blank ∧ cs = blank ++ skipSpace cs :=
  ⟨cs.takeWhile isSpace, fun _ hc => List.mem_takeWhile_imp hc, List.takeWhile_append_dropWhile.symm⟩

theorem IsNumeral.head {ds : List Char} (hds : IsNumeral ds) (rest : List Char) :
    ∀ c ∈ (ds ++ rest).head?, c.isDigit = true := by
  obtain ⟨c, cs, rfl⟩ := List.exists_cons_of_ne_nil hds.1
  intro d hd
  obtain rfl := Option.mem_some.1 hd
  exact hds.2 c List.mem_cons_self

theorem skipSpace_numeral {blank ds : List Char} (hblank : IsBlank blank) (hds : IsNumeral ds)
    (rest : List Char) : skipSpace (blank ++ (ds ++ rest)) = ds ++ rest :=
  skipSpace_append hblank fun c hc => isSpace_of_isDigit (hds.head rest c hc)

theorem noDigit_cons {c : Char} (h : c.isDigit = false) (rest : List Char) : NoDigit (c :: rest) := by
  intro d hd
  obtain rfl := Option.mem_some.1 hd
  exact h

/-- White space does not go on with a numeral, if what follows it does not. -/
theorem IsBlank.noDigit_append {blank rest : List Char} (hblank : IsBlank blank)
    (hrest : NoDigit rest) : NoDigit (blank ++ rest) := by
  cases blank with
  | nil => exact hrest
  | cons c blank =>
    apply noDigit_cons
    cases hc : c.isDigit with
    | false => rfl
    | true => exact absurd (hblank c List.mem_cons_self) (by rw [isSpace_of_isDigit hc]; decide)

theorem IsBlank.ne_point_append {blank rest : List Char} (hblank : IsBlank blank)
    (hrest : ∀ c ∈ rest.head?, c ≠ '.') : ∀ c ∈ (blank ++ rest).head?, c ≠ '.' := by
  cases blank with
  | nil => exact hrest
  | cons c blank =>
    rintro d hd rfl
    obtain rfl := Option.mem_some.1 hd
    exact absurd (hblank '.' List.mem_cons_self) (by decide)

/-! ### Reading the parts -/

theorem exists_numeral_of_digits {cs ds rest : List Char} (h : digits cs = .ok (ds, rest)) :
    IsNumeral ds ∧ cs = ds ++ rest := by
  unfold digits at h
  split at h
  · cases h
  next c cs =>
    split at h
    next hc =>
      obtain ⟨rfl, rfl⟩ := Prod.mk.inj (Except.ok.inj h)
      refine ⟨⟨?_, fun d hd => List.mem_takeWhile_imp hd⟩, List.takeWhile_append_dropWhile.symm⟩
      rw [List.takeWhile_cons_of_pos hc]
      exact List.cons_ne_nil _ _
    · cases h

theorem exists_numeral_of_digitsUpTo {width : Nat} {cs ds rest : List Char}
    (h : digitsUpTo (width + 1) cs = .ok (ds, rest)) :
    IsNumeral ds ∧ ds.length ≤ width + 1 ∧ cs = ds ++ rest := by
  unfold digitsUpTo at h
  split at h
  · cases h
  next c cs =>
    split at h
    next hc =>
      obtain ⟨rfl, rfl⟩ := Prod.mk.inj (Except.ok.inj h)
      -- The digits are the front of the front that the width allows.
      have hfront : ((c :: cs).take (width + 1)).takeWhile Char.isDigit <+: c :: cs :=
        (List.takeWhile_prefix _).trans (List.take_prefix _ _)
      refine ⟨⟨?_, fun d hd => List.mem_takeWhile_imp hd⟩, ?_, ?_⟩
      · rw [List.take_succ_cons, List.takeWhile_cons_of_pos hc]
        exact List.cons_ne_nil _ _
      · exact (List.takeWhile_prefix _).length_le.trans (List.length_take_le _ _)
      · exact (List.prefix_iff_eq_append.1 hfront).symm
    · cases h

theorem field_of_spells {least greatest n : Nat} {cs rest : List Char}
    (h : SpellsField least greatest n cs) (hrest : NoDigit rest) :
    field least greatest (cs ++ rest) = .ok (n, rest) := by
  obtain ⟨hblank, hds, hlength, hleast, hgreatest⟩ := h
  rw [field, List.append_assoc, skipSpace_numeral hblank hds,
    bind_of_read (digitsUpTo_append hds hlength fun _ => hrest)]
  exact if_pos ⟨hleast, hgreatest⟩

theorem spells_of_field {least greatest n : Nat} {cs rest : List Char}
    (h : field least greatest cs = .ok (n, rest)) :
    ∃ front, cs = front ++ rest ∧ SpellsField least greatest n front := by
  obtain ⟨blank, hblank, hcs⟩ := exists_blank cs
  obtain ⟨⟨ds, rest'⟩, hread, h⟩ := bind_eq_ok_iff.1 h
  obtain ⟨hds, hlength, hskip⟩ := exists_numeral_of_digitsUpTo hread
  simp only at h
  split at h
  next hbounds =>
    obtain ⟨rfl, rfl⟩ := Prod.mk.inj (Except.ok.inj h)
    refine ⟨blank ++ ds, ?_, .intro hblank hds hlength hbounds.1 hbounds.2⟩
    rw [hcs, hskip, List.append_assoc]
  · cases h

theorem sign_of_blank {c : Char} {blank : List Char} (hblank : IsBlank blank)
    (hc : isSpace c = false) (rest : List Char) :
    sign c (blank ++ c :: rest) = .ok ((), rest) := by
  simp only [sign, skipSpace_append_cons hblank hc, if_true]

theorem blank_of_sign {c : Char} {u : Unit} {cs rest : List Char}
    (h : sign c cs = .ok (u, rest)) :
    ∃ front, cs = front ++ rest ∧ ∃ blank, IsBlank blank ∧ front = blank ++ [c] := by
  obtain ⟨blank, hblank, hcs⟩ := exists_blank cs
  unfold sign at h
  split at h
  · cases h
  next d rest' hskip =>
    split at h
    next heq =>
      obtain ⟨-, rfl⟩ := Prod.mk.inj (Except.ok.inj h)
      refine ⟨blank ++ [c], ?_, blank, hblank, rfl⟩
      rw [hcs, hskip, heq, List.append_assoc, List.singleton_append]
    · cases h

/-- A year without the white space before it, whatever its size. -/
def yearNumber (cs : List Char) : Except Fault (Int × List Char) :=
  match cs with
  | '-' :: rest => (digits rest).map fun (ds, rest) => (-(value ds : Int), rest)
  | '+' :: rest => (digits rest).map fun (ds, rest) => ((value ds : Int), rest)
  | rest => (digitsUpTo 4 rest).map fun (ds, rest) => ((value ds : Int), rest)

/-- Without a sign there are up to four digits. -/
theorem yearNumber_of_no_sign {cs : List Char} (hminus : ∀ rest, cs ≠ '-' :: rest)
    (hplus : ∀ rest, cs ≠ '+' :: rest) :
    yearNumber cs = (digitsUpTo 4 cs).map fun (ds, rest) => ((value ds : Int), rest) := by
  unfold yearNumber
  split
  next => exact absurd rfl (hminus _)
  next => exact absurd rfl (hplus _)
  next => rfl

theorem yearNumber_of_numeral {ds : List Char} (hds : IsNumeral ds) (rest : List Char) :
    yearNumber (ds ++ rest) =
      (digitsUpTo 4 (ds ++ rest)).map fun (ds, rest) => ((value ds : Int), rest) := by
  have hdigit := hds.head rest
  apply yearNumber_of_no_sign
  · intro after h
    exact absurd (hdigit '-' (by rw [h]; rfl)) (by decide)
  · intro after h
    exact absurd (hdigit '+' (by rw [h]; rfl)) (by decide)

theorem yearField_eq (cs : List Char) :
    yearField cs = yearNumber (skipSpace cs) >>= fun (year, rest) =>
      if -2147483648 ≤ year ∧ year ≤ 2147483647 then pure (year, rest) else .error .outOfRange := by
  unfold yearField
  generalize skipSpace cs = cs
  split
  next => rfl
  next => rfl
  next hminus hplus => exact congrArg (· >>= _) (yearNumber_of_no_sign hminus hplus).symm

theorem year_of_spells {year : Int} {cs rest : List Char} (h : SpellsYear year cs)
    (hrange : -2147483648 ≤ year ∧ year ≤ 2147483647) (hrest : NoDigit rest) :
    yearField (cs ++ rest) = .ok (year, rest) := by
  have hread : yearNumber (skipSpace (cs ++ rest)) = .ok (year, rest) := by
    cases h with
    | short hblank hds hlength =>
      rw [List.append_assoc, skipSpace_numeral hblank hds, yearNumber_of_numeral hds,
        digitsUpTo_append hds hlength fun _ => hrest]
      rfl
    | positive hblank hds =>
      rw [List.append_assoc, List.cons_append, skipSpace_append_cons hblank (by decide), yearNumber,
        digits_append hds hrest]
      rfl
    | negative hblank hds =>
      rw [List.append_assoc, List.cons_append, skipSpace_append_cons hblank (by decide), yearNumber,
        digits_append hds hrest]
      rfl
  rw [yearField_eq, bind_of_read hread]
  exact if_pos hrange

/-- What is read as a year is one, after any white space. -/
theorem spells_of_yearNumber {year : Int} {cs rest : List Char}
    (h : yearNumber cs = .ok (year, rest)) :
    ∃ front, cs = front ++ rest ∧ ∀ blank, IsBlank blank → SpellsYear year (blank ++ front) := by
  unfold yearNumber at h
  split at h
  next after =>
    obtain ⟨ds, hdigits, rfl⟩ := exists_read_of_map (f := fun ds => -(value ds : Int)) h
    obtain ⟨hds, rfl⟩ := exists_numeral_of_digits hdigits
    exact ⟨'-' :: ds, rfl, fun _ hblank => .negative hblank hds⟩
  next after =>
    obtain ⟨ds, hdigits, rfl⟩ := exists_read_of_map (f := fun ds => (value ds : Int)) h
    obtain ⟨hds, rfl⟩ := exists_numeral_of_digits hdigits
    exact ⟨'+' :: ds, rfl, fun _ hblank => .positive hblank hds⟩
  next =>
    obtain ⟨ds, hdigits, rfl⟩ := exists_read_of_map (f := fun ds => (value ds : Int)) h
    obtain ⟨hds, hlength, hcs⟩ := exists_numeral_of_digitsUpTo hdigits
    exact ⟨ds, hcs, fun _ hblank => .short hblank hds hlength⟩

theorem spells_of_yearField {year : Int} {cs rest : List Char}
    (h : yearField cs = .ok (year, rest)) :
    ∃ front, cs = front ++ rest ∧ SpellsYear year front := by
  obtain ⟨blank, hblank, hcs⟩ := exists_blank cs
  rw [yearField_eq] at h
  obtain ⟨⟨year', rest'⟩, hread, h⟩ := bind_eq_ok_iff.1 h
  simp only at h
  split at h
  next =>
    obtain ⟨rfl, rfl⟩ := Prod.mk.inj (Except.ok.inj h)
    obtain ⟨front, hskip, hfront⟩ := spells_of_yearNumber hread
    exact ⟨blank ++ front, by rw [hcs, hskip, List.append_assoc], hfront blank hblank⟩
  · cases h

/-- A fraction starts with a point, so it does not go on with the seconds. -/
theorem SpellsFraction.noDigit_append {nano : Nat} {cs rest : List Char}
    (h : SpellsFraction nano cs) (hrest : NoDigit rest) : NoDigit (cs ++ rest) := by
  cases h with
  | none => exact hrest
  | point => exact noDigit_cons (by decide) _

theorem fraction_of_spells {nano : Nat} {cs rest : List Char} (h : SpellsFraction nano cs)
    (hrest : NoDigit rest) (hpoint : ∀ c ∈ rest.head?, c ≠ '.') :
    fraction (cs ++ rest) = .ok (nano, rest) := by
  cases h with
  | none =>
    rw [List.nil_append]
    unfold fraction
    split
    next => exact absurd rfl (hpoint '.' rfl)
    next => rfl
  | point hds =>
    rw [List.cons_append, fraction, digits_append hds hrest]
    rfl

theorem spells_of_fraction {nano : Nat} {cs rest : List Char}
    (h : fraction cs = .ok (nano, rest)) :
    ∃ front, cs = front ++ rest ∧ SpellsFraction nano front := by
  unfold fraction at h
  split at h
  next after =>
    obtain ⟨⟨ds, rest⟩, hdigits, heq⟩ := map_eq_ok_iff.1 h
    obtain ⟨rfl, rfl⟩ := Prod.mk.inj heq
    obtain ⟨hds, rfl⟩ := exists_numeral_of_digits hdigits
    exact ⟨'.' :: ds, rfl, .point hds⟩
  next =>
    obtain ⟨rfl, rfl⟩ := Prod.mk.inj (Except.ok.inj h)
    exact ⟨[], rfl, .none⟩

theorem spells_of_twoDigits {n : Nat} {cs rest : List Char} (h : twoDigits cs = .ok (n, rest)) :
    ∃ c c', cs = c :: c' :: rest ∧ c.isDigit = true ∧ c'.isDigit = true ∧ n = value [c, c'] := by
  unfold twoDigits at h
  split at h
  next c c' after =>
    split at h
    next hdigits =>
      obtain ⟨rfl, rfl⟩ := Prod.mk.inj (Except.ok.inj h)
      exact ⟨c, c', rfl, hdigits.1, hdigits.2, rfl⟩
    · cases h
  next => split at h <;> cases h
  next => cases h

theorem twoDigits_cons {c c' : Char} (hc : c.isDigit = true) (hc' : c'.isDigit = true)
    (rest : List Char) : twoDigits (c :: c' :: rest) = .ok (value [c, c'], rest) :=
  if_pos ⟨hc, hc'⟩

theorem hoursAndMinutes_of_spells {n : Nat} {cs : List Char} (h : SpellsHoursAndMinutes n cs)
    (rest : List Char) : hoursAndMinutes (cs ++ rest) = .ok (n, rest) := by
  obtain @⟨h, h', m, m', gap, hh, hh', hgap, hm, hm', hminutes⟩ := h
  -- The gap ends at the minutes, which start with a digit.
  have hskip : (gap ++ m :: m' :: rest).dropWhile isGap = m :: m' :: rest := by
    have hstop : isGap m = false := by
      rw [isGap, isSpace_of_isDigit hm, Bool.or_false, beq_eq_false_iff_ne]
      rintro rfl
      cases hm
    rw [List.dropWhile_append_of_pos hgap, List.dropWhile_cons_of_neg (by simp [hstop])]
  have hcs : h :: h' :: gap ++ [m, m'] ++ rest = h :: h' :: (gap ++ m :: m' :: rest) := by simp
  rw [hcs, hoursAndMinutes, bind_of_read (twoDigits_cons hh hh' _)]
  have hread : twoDigits ((gap ++ m :: m' :: rest).dropWhile isGap) = .ok (value [m, m'], rest) := by
    rw [hskip, twoDigits_cons hm hm']
  exact (bind_of_read hread _).trans (if_pos hminutes)

theorem spells_of_hoursAndMinutes {n : Nat} {cs rest : List Char}
    (h : hoursAndMinutes cs = .ok (n, rest)) :
    ∃ front, cs = front ++ rest ∧ SpellsHoursAndMinutes n front := by
  obtain ⟨⟨hours, after⟩, hhours, hafter⟩ := bind_eq_ok_iff.1 h
  obtain ⟨⟨minutes, rest'⟩, hminutes, hlast⟩ := bind_eq_ok_iff.1 hafter
  obtain ⟨c, c', rfl, hc, hc', rfl⟩ := spells_of_twoDigits hhours
  obtain ⟨m, m', hskip, hm, hm', rfl⟩ := spells_of_twoDigits hminutes
  obtain ⟨gap, hgap, rfl⟩ :
      ∃ gap, (∀ d ∈ gap, isGap d = true) ∧ after = gap ++ m :: m' :: rest' :=
    ⟨after.takeWhile isGap, fun _ hd => List.mem_takeWhile_imp hd,
      (List.takeWhile_append_dropWhile (p := isGap)).symm.trans (congrArg _ hskip)⟩
  simp only at hlast
  split at hlast
  next hlt =>
    obtain ⟨rfl, rfl⟩ := Prod.mk.inj (Except.ok.inj hlast)
    exact ⟨c :: c' :: gap ++ [m, m'], by simp, .intro hc hc' hgap hm hm' hlt⟩
  · cases hlast

theorem cases_of_toLower {c : Char} (h : c.toLower = 'u') : c = 'u' ∨ c = 'U' := by
  unfold Char.toLower at h
  split at h
  next =>
    -- Capital letters stand thirty-two before the small ones.
    have hval : c.val + 32 = 85 + 32 := congrArg Char.val h
    exact .inr (Char.ext ((UInt32.add_left_inj 32).1 hval))
  next => exact .inl h

/-- No offset starts with white space, with a digit or with a point. -/
theorem SpellsOffset.head {n : Int} {cs : List Char} (h : SpellsOffset n cs) (rest : List Char) :
    ∀ c ∈ (cs ++ rest).head?, isSpace c = false ∧ c.isDigit = false ∧ c ≠ '.' := by
  intro c hc
  cases h with
  | utc hu =>
    obtain rfl := Option.mem_some.1 hc
    rcases cases_of_toLower hu with rfl | rfl <;> decide
  | zulu hz =>
    obtain rfl := Option.mem_some.1 hc
    rcases hz with rfl | rfl <;> decide
  | east =>
    obtain rfl := Option.mem_some.1 hc
    decide
  | west hminus =>
    obtain rfl := Option.mem_some.1 hc
    rcases hminus with rfl | rfl <;> decide

/-- Only the name of the zone starts with this letter. -/
theorem offset_eq_zone {c : Char} (hc : c.toLower ≠ 'u') (rest : List Char) :
    offset (c :: rest) = offset.zone (c :: rest) := by
  unfold offset
  split
  next h =>
    obtain ⟨rfl, -⟩ := List.cons.inj h
    exact if_neg fun hutc => hc hutc.1
  next => rfl

theorem offset_of_spells {n : Int} {cs : List Char} (h : SpellsOffset n cs)
    (rest : List Char) : offset (cs ++ rest) = .ok (n, rest) := by
  cases h with
  | utc hu ht hc => exact if_pos ⟨hu, ht, hc⟩
  | zulu hz =>
    rw [List.singleton_append, offset_eq_zone (by rcases hz with rfl | rfl <;> decide)]
    exact if_pos hz
  | east hread =>
    rw [List.cons_append, offset_eq_zone (by decide)]
    simp only [offset.zone, hoursAndMinutes_of_spells hread rest]
    rfl
  | west hminus hread =>
    rw [List.cons_append, offset_eq_zone (by rcases hminus with rfl | rfl <;> decide)]
    simp only [offset.zone, hoursAndMinutes_of_spells hread rest]
    rcases hminus with rfl | rfl <;> rfl

theorem spells_of_zone {n : Int} {cs rest : List Char} (h : offset.zone cs = .ok (n, rest)) :
    ∃ front, cs = front ++ rest ∧ SpellsOffset n front := by
  unfold offset.zone at h
  split at h
  · cases h
  next c after =>
    -- The zone, and then the signs in the order in which they are tried.
    split at h
    next hz =>
      obtain ⟨rfl, rfl⟩ := Prod.mk.inj (Except.ok.inj h)
      exact ⟨[c], rfl, .zulu hz⟩
    next =>
      split at h
      next heast =>
        obtain ⟨k, hread, rfl⟩ := exists_read_of_map h
        obtain ⟨front, rfl, hfront⟩ := spells_of_hoursAndMinutes hread
        exact ⟨'+' :: front, by rw [heast]; rfl, .east hfront⟩
      next =>
        split at h
        next hwest =>
          obtain ⟨k, hread, rfl⟩ := exists_read_of_map (f := fun k : Nat => -(k : Int)) h
          obtain ⟨front, rfl, hfront⟩ := spells_of_hoursAndMinutes hread
          exact ⟨c :: front, rfl, .west hwest hfront⟩
        next => cases h

theorem spells_of_offset {n : Int} {cs rest : List Char} (h : offset cs = .ok (n, rest)) :
    ∃ front, cs = front ++ rest ∧ SpellsOffset n front := by
  unfold offset at h
  split at h
  next u t c after =>
    split at h
    next hutc =>
      obtain ⟨rfl, rfl⟩ := Prod.mk.inj (Except.ok.inj h)
      exact ⟨[u, t, c], rfl, .utc hutc.1 hutc.2.1 hutc.2.2⟩
    next => exact spells_of_zone h
  next => exact spells_of_zone h

/-! ### Reading an instant -/

theorem isDate_of_resolve {year offset : Int} {month day hour minute second nano : Nat}
    {i : Instant} (h : resolve year month day hour minute second nano offset = .ok i) :
    Calendar.IsDate year month day := by
  by_contra hnot
  have hnone : Date.ofParts? year month day = none := dif_neg hnot
  simp only [resolve, hnone, Option.bind_none] at h
  cases h

theorem spells_of_separator {u : Unit} {cs rest : List Char} (h : separator cs = .ok (u, rest)) :
    ∃ front, cs = front ++ rest ∧ ∃ c, (c = 'T' ∨ c = 't' ∨ c = ' ') ∧ front = [c] := by
  unfold separator at h
  split at h
  · cases h
  next c after =>
    split at h
    next hc =>
      obtain ⟨-, rfl⟩ := Prod.mk.inj (Except.ok.inj h)
      exact ⟨[c], rfl, c, hc, rfl⟩
    · cases h

theorem noDigit_separator {c : Char} (h : c = 'T' ∨ c = 't' ∨ c = ' ') (rest : List Char) :
    NoDigit (c :: rest) := by
  apply noDigit_cons
  rcases h with rfl | rfl | rfl <;> decide

/-- The reader accepts every spelling. -/
theorem read_of_spells {i : Instant} {cs : List Char} (h : Spells i cs) : read cs = .ok i := by
  obtain ⟨hdate, hsep, htime, hfraction, hbefore, hoffset, hafter, hresolve⟩ := h
  obtain ⟨hyear, hblank₁, hmonth, hblank₂, hday⟩ := hdate
  obtain ⟨hhour, hblank₃, hminute, hblank₄, hsecond⟩ := htime
  obtain ⟨hlow, hhigh, -⟩ := isDate_of_resolve hresolve
  -- No part is followed by anything that could belong to it, the fraction neither by a point.
  have hdash : ∀ rest, NoDigit ('-' :: rest) := noDigit_cons (by decide)
  have hcolon : ∀ rest, NoDigit (':' :: rest) := noDigit_cons (by decide)
  have hhead := hoffset.head
  have hnumeral := fun after => hbefore.noDigit_append fun c hc => (hhead after c hc).2.1
  have hpoint := fun after => hbefore.ne_point_append fun c hc => (hhead after c hc).2.2
  simp only [List.append_assoc, List.cons_append, read]
  refine (bind_of_read (year_of_spells hyear ⟨by omega, by omega⟩
    (hblank₁.noDigit_append (hdash _))) _).trans ?_
  refine (bind_of_read (sign_of_blank hblank₁ (by decide) _) _).trans ?_
  refine (bind_of_read (field_of_spells hmonth (hblank₂.noDigit_append (hdash _))) _).trans ?_
  refine (bind_of_read (sign_of_blank hblank₂ (by decide) _) _).trans ?_
  refine (bind_of_read (field_of_spells hday (noDigit_separator hsep _)) _).trans ?_
  refine (bind_of_read (if_pos hsep) _).trans ?_
  refine (bind_of_read (field_of_spells hhour (hblank₃.noDigit_append (hcolon _))) _).trans ?_
  refine (bind_of_read (sign_of_blank hblank₃ (by decide) _) _).trans ?_
  refine (bind_of_read (field_of_spells hminute (hblank₄.noDigit_append (hcolon _))) _).trans ?_
  refine (bind_of_read (sign_of_blank hblank₄ (by decide) _) _).trans ?_
  refine (bind_of_read (field_of_spells hsecond (hfraction.noDigit_append (hnumeral _))) _).trans ?_
  refine (bind_of_read (fraction_of_spells hfraction (hnumeral _) (hpoint _)) _).trans ?_
  rw [skipSpace_append hbefore fun c hc => (hhead _ c hc).1]
  refine (bind_of_read (offset_of_spells hoffset _) _).trans ?_
  exact (if_pos (skipSpace_eq_nil_iff.2 hafter)).trans hresolve

/-- If reading goes on after a part, the characters start with a spelling of the part. -/
theorem exists_front_of_bind {α β : Type} {first : List Char → Except Fault (α × List Char)}
    {Spelled : α → List Char → Prop} {next : α × List Char → Except Fault β} {cs : List Char} {b : β}
    (hfirst : ∀ {cs rest : List Char} {a : α}, first cs = .ok (a, rest) →
      ∃ front, cs = front ++ rest ∧ Spelled a front)
    (h : (first cs >>= next) = .ok b) :
    ∃ a front rest, cs = front ++ rest ∧ Spelled a front ∧ next (a, rest) = .ok b := by
  obtain ⟨⟨a, rest⟩, hread, hnext⟩ := bind_eq_ok_iff.1 h
  obtain ⟨front, hcs, hfront⟩ := hfirst hread
  exact ⟨a, front, rest, hcs, hfront, hnext⟩

/-- The reader accepts nothing but spellings. -/
theorem spells_of_read {i : Instant} {cs : List Char} (h : read cs = .ok i) : Spells i cs := by
  -- The parts come off the front in their order: the day, the separator, the time, the offset.
  obtain ⟨_, _, _, rfl, hyear, h₁⟩ := exists_front_of_bind spells_of_yearField h
  obtain ⟨_, _, _, rfl, ⟨_, hblank₁, rfl⟩, h₂⟩ := exists_front_of_bind blank_of_sign h₁
  obtain ⟨_, _, _, rfl, hmonth, h₃⟩ := exists_front_of_bind spells_of_field h₂
  obtain ⟨_, _, _, rfl, ⟨_, hblank₂, rfl⟩, h₄⟩ := exists_front_of_bind blank_of_sign h₃
  obtain ⟨_, _, _, rfl, hday, h₅⟩ := exists_front_of_bind spells_of_field h₄
  obtain ⟨_, _, _, rfl, ⟨_, hsep, rfl⟩, h₆⟩ := exists_front_of_bind spells_of_separator h₅
  obtain ⟨_, _, _, rfl, hhour, h₇⟩ := exists_front_of_bind spells_of_field h₆
  obtain ⟨_, _, _, rfl, ⟨_, hblank₃, rfl⟩, h₈⟩ := exists_front_of_bind blank_of_sign h₇
  obtain ⟨_, _, _, rfl, hminute, h₉⟩ := exists_front_of_bind spells_of_field h₈
  obtain ⟨_, _, _, rfl, ⟨_, hblank₄, rfl⟩, h₁₀⟩ := exists_front_of_bind blank_of_sign h₉
  obtain ⟨_, _, _, rfl, hsecond, h₁₁⟩ := exists_front_of_bind spells_of_field h₁₀
  obtain ⟨_, _, cs, rfl, hfraction, h₁₂⟩ := exists_front_of_bind spells_of_fraction h₁₁
  obtain ⟨_, o, after, ho, hoffset, hlast⟩ := exists_front_of_bind spells_of_offset h₁₂
  obtain ⟨before, hbefore, hskip⟩ := exists_blank cs
  simp only at hlast
  split at hlast
  next hafter =>
    have hspells := Spells.intro (.intro hyear hblank₁ hmonth hblank₂ hday) hsep
      (.intro hhour hblank₃ hminute hblank₄ hsecond) hfraction hbefore hoffset
      (skipSpace_eq_nil_iff.1 hafter) hlast
    rw [hskip, ho]
    simpa using hspells
  · cases hlast

theorem read_eq_ok_iff {i : Instant} {cs : List Char} : read cs = .ok i ↔ Spells i cs :=
  ⟨spells_of_read, read_of_spells⟩

/-- Exactly the spellings of an instant are read as the instant. -/
theorem parse_eq_ok_iff {i : Instant} {s : String} : parse s = .ok i ↔ Spells i s.toList :=
  read_eq_ok_iff

/-! ### Leap seconds that are read -/

private theorem foldl_digitValue_lt {ds : List Char} (h : ∀ c ∈ ds, c.isDigit = true) (n : Nat) :
    ds.foldl (fun n c => 10 * n + Decimal.digitValue c) n < (n + 1) * 10 ^ ds.length := by
  induction ds generalizing n with
  | nil => simp
  | cons c ds ih =>
    obtain ⟨hc, hds⟩ := List.forall_mem_cons.1 h
    have hdigit : Decimal.digitValue c ≤ 9 := by
      have hhigh : c.toNat ≤ 57 := by
        simp only [Char.isDigit, Bool.and_eq_true, decide_eq_true_eq] at hc
        exact hc.2
      exact Nat.sub_le_of_le_add hhigh
    calc ds.foldl _ (10 * n + Decimal.digitValue c)
        < (10 * n + Decimal.digitValue c + 1) * 10 ^ ds.length := ih hds _
      _ ≤ ((n + 1) * 10) * 10 ^ ds.length := Nat.mul_le_mul_right _ (by omega)
      _ = (n + 1) * 10 ^ (ds.length + 1) := by rw [Nat.pow_succ, Nat.mul_assoc, Nat.mul_comm 10]

theorem value_lt {ds : List Char} (h : ∀ c ∈ ds, c.isDigit = true) : value ds < 10 ^ ds.length :=
  Nat.lt_of_lt_of_eq (foldl_digitValue_lt h 0) (by omega)

/-- A fraction is less than a second. -/
theorem SpellsFraction.lt {nano : Nat} {cs : List Char} (h : SpellsFraction nano cs) :
    nano < nanosPerSecond := by
  cases h with
  | none => decide
  | @point ds hds =>
    have hlength : (ds.take 9).length ≤ 9 := List.length_take_le 9 ds
    have hvalue : value (ds.take 9) < 10 ^ (ds.take 9).length :=
      value_lt fun c hc => hds.2 c (List.mem_of_mem_take hc)
    calc value (ds.take 9) * Nat.pow 10 (9 - (ds.take 9).length)
        < 10 ^ (ds.take 9).length * 10 ^ (9 - (ds.take 9).length) :=
          Nat.mul_lt_mul_of_pos_right hvalue (Nat.pow_pos (by decide))
      _ = nanosPerSecond := by
          rw [← Nat.pow_add, Nat.add_sub_cancel' hlength]
          rfl

/-- An offset is a number of minutes. -/
theorem SpellsOffset.minutes {n : Int} {cs : List Char} (h : SpellsOffset n cs) : n % 60 = 0 := by
  cases h with
  | utc => rfl
  | zulu => rfl
  | east hread => obtain ⟨⟩ := hread; omega
  | west _ hread => obtain ⟨⟩ := hread; omega

theorem parts_of_ofParts? {date : Date} {second nano : Nat} {i : Instant}
    (h : ofParts? date second nano = some i) : i.second = second ∧ i.nano = nano := by
  unfold ofParts? at h
  split at h
  · obtain rfl := Option.some.inj h
    exact ⟨rfl, rfl⟩
  · cases h

/-- Moved by minutes, an instant stays at its place in the minute. -/
theorem OnMinute.shift? {i j : Instant} {seconds : Int} (hi : i.OnMinute)
    (hminutes : seconds % 60 = 0) (hday : -(secondsPerDay : Int) ≤ seconds)
    (h : i.shift? seconds = some j) : j.OnMinute := by
  have hplace : j.nano = i.nano ∧ j.second % 60 = i.second % 60 := by
    have hseconds : (secondsPerDay : Int) = 86400 := rfl
    simp only [Instant.shift?] at h
    split at h
    · obtain ⟨date, -, hparts⟩ := Option.bind_eq_some_iff.1 h
      obtain ⟨hsecond, hnano⟩ := parts_of_ofParts? hparts
      exact ⟨hnano, by omega⟩
    · split at h
      · obtain ⟨hsecond, hnano⟩ := parts_of_ofParts? h
        exact ⟨hnano, by omega⟩
      · obtain ⟨date, -, hparts⟩ := Option.bind_eq_some_iff.1 h
        obtain ⟨hsecond, hnano⟩ := parts_of_ofParts? hparts
        exact ⟨hnano, by omega⟩
  intro hleap
  rw [hplace.1] at hleap
  rw [hplace.2, hi hleap]

theorem onMinute_of_resolve {year offset : Int} {month day hour minute second nano : Nat}
    {i : Instant} (hnano : nano < nanosPerSecond) (hoffset : offset % 60 = 0)
    (h : resolve year month day hour minute second nano offset = .ok i) : i.OnMinute := by
  simp only [resolve] at h
  split at h
  · cases h
  next j hj =>
    obtain ⟨date, -, hparts⟩ := Option.bind_eq_some_iff.1 hj
    obtain ⟨hjsecond, hjnano⟩ := parts_of_ofParts? hparts
    -- The fraction alone is no leap second; second sixty is the only one that makes it one.
    have hj : j.OnMinute := by
      intro hleap
      by_cases hsixty : second = 60
      · simp only [hsixty, if_true] at hjsecond
        omega
      · simp only [hsixty, if_false] at hjnano
        omega
    split at h
    next hday =>
      split at h
      next k hshift =>
        obtain rfl := Except.ok.inj h
        exact hj.shift? (by omega) (by omega) hshift
      · cases h
    · cases h

/-- A leap second is read at the end of a minute only. -/
theorem onMinute_of_read {i : Instant} {cs : List Char} (h : read cs = .ok i) : i.OnMinute := by
  obtain ⟨-, -, -, hfraction, -, hoffset, -, hresolve⟩ := spells_of_read h
  exact onMinute_of_resolve hfraction.lt hoffset.minutes hresolve

theorem onMinute_of_parse {i : Instant} {s : String} (h : parse s = .ok i) : i.OnMinute :=
  onMinute_of_read h

end SignOn.Instant
