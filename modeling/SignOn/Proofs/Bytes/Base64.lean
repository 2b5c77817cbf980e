import Mathlib.Data.List.Basic
import SignOn.Bytes.Base64

/-!
# Base64 is read exactly

A text in the standard alphabet is a row of six-bit numbers: complete groups of four, and a last
group of two to four that padding completes. Reading takes exactly the texts that are spelled so,
and of these only the ones in which the bits that belong to no byte are zero. Such numbers are the
ones that their bytes are written with, so a text is read to some bytes exactly if it is what these
bytes are written as.

## Main definitions

* `Base64.spell` - numbers as symbols, and padding
* `Base64.Canonical` - the numbers and the padding of a text that is read

## Main results

* `Base64.decode_eq_ok_iff_canonical` - a text is read if its numbers are canonical
* `Base64.Canonical.sextets_bytesOf`, `Base64.exists_canonical` - these are the numbers of bytes
* `Base64.decode_eq_ok_iff` - bytes are read from their standard form, and from nothing else
-/

namespace SignOn.Base64

variable {text front last bytes : List UInt8} {complete ns : List Nat}
  {pads n offset position : Nat} {b : UInt8}

/-! ### Symbols -/

/-- Every number below sixty-four has a symbol of its own. -/
theorem value?_standardSymbol (h : n < 64) : value? (standardSymbol n) = some n := by
  have all : ∀ k, k < 64 → value? (standardSymbol k) = some k := by decide
  exact all n h

/-- Every symbol is the one of its number. -/
theorem of_value?_eq_some (h : value? b = some n) : n < 64 ∧ standardSymbol n = b := by
  have all : ∀ k, k < 256 → ∀ n ∈ value? (UInt8.ofNat k),
      n < 64 ∧ standardSymbol n = UInt8.ofNat k := by decide +kernel
  have hb := all b.toNat b.toNat_lt
  rw [UInt8.ofNat_toNat] at hb
  exact hb n h

theorem standardSymbol_ne_pad (h : n < 64) : standardSymbol n ≠ pad := by
  have all : ∀ k, k < 64 → standardSymbol k ≠ pad := by decide
  exact all n h

/-! ### The parts of a text -/

/-- Numbers as symbols, with padding behind them. -/
def spell (ns : List Nat) (pads : Nat) : List UInt8 :=
  ns.map standardSymbol ++ List.replicate pads pad

theorem spell_append (complete ns : List Nat) (pads : Nat) :
    spell (complete ++ ns) pads = complete.map standardSymbol ++ spell ns pads := by
  rw [spell, List.map_append, List.append_assoc, ← spell]

theorem length_spell (ns : List Nat) (pads : Nat) : (spell ns pads).length = ns.length + pads := by
  rw [spell, List.length_append, List.length_map, List.length_replicate]

theorem spell_eq_nil_iff : spell ns pads = [] ↔ ns = [] ∧ pads = 0 := by
  rw [spell, List.append_eq_nil_iff, List.map_eq_nil_iff, List.replicate_eq_nil_iff]

theorem symbols_map (h : ∀ n ∈ ns, n < 64) :
    symbols offset (ns.map standardSymbol) = .ok ns := by
  induction ns generalizing offset with
  | nil => rfl
  | cons n rest ih =>
    obtain ⟨hn, hrest⟩ := List.forall_mem_cons.1 h
    rw [List.map_cons, symbols, value?_standardSymbol hn, ih hrest]

/-- Complete groups are the symbols of the numbers that are read. -/
theorem of_symbols (h : symbols offset text = .ok ns) :
    (∀ n ∈ ns, n < 64) ∧ text = ns.map standardSymbol := by
  induction text generalizing offset ns with
  | nil =>
    obtain rfl := Except.ok.inj h
    exact ⟨fun n hnone => absurd hnone List.not_mem_nil, rfl⟩
  | cons b rest ih =>
    rw [symbols] at h
    split at h
    next => cases h
    next n hvalue =>
      split at h
      next ns' hrest =>
        obtain rfl := Except.ok.inj h
        obtain ⟨hlt, rfl⟩ := ih hrest
        obtain ⟨hn, rfl⟩ := of_value?_eq_some hvalue
        exact ⟨List.forall_mem_cons.2 ⟨hn, hlt⟩, rfl⟩
      next => cases h

theorem lastGroup_replicate (hposition : 2 ≤ position) (firstPad : Option Nat) :
    lastGroup offset position firstPad (List.replicate pads pad) = .ok ([], pads) := by
  induction pads generalizing position firstPad with
  | zero => rfl
  | succ pads ih =>
    simp only [List.replicate_succ, lastGroup, if_true, Nat.not_lt.2 hposition, if_false,
      ih (Nat.le_succ_of_le hposition)]

theorem lastGroup_spell (h : ∀ n ∈ ns, n < 64) (hpads : pads = 0 ∨ 2 ≤ position + ns.length) :
    lastGroup offset position none (spell ns pads) = .ok (ns, pads) := by
  induction ns generalizing position with
  | nil =>
    obtain rfl | hposition := hpads
    · rfl
    · exact lastGroup_replicate hposition none
  | cons n rest ih =>
    obtain ⟨hn, hrest⟩ := List.forall_mem_cons.1 h
    have hpads' : pads = 0 ∨ 2 ≤ position + 1 + rest.length := by
      rwa [Nat.add_assoc, Nat.add_comm 1]
    have hcons : spell (n :: rest) pads = standardSymbol n :: spell rest pads := rfl
    simp only [hcons, lastGroup, standardSymbol_ne_pad hn, if_false, value?_standardSymbol hn,
      ih hrest hpads']

/-- After padding there is nothing but padding. -/
theorem of_lastGroup_padding {first : Nat}
    (h : lastGroup offset position (some first) last = .ok (ns, pads)) :
    ns = [] ∧ last = List.replicate pads pad := by
  induction last generalizing position first ns pads with
  | nil =>
    cases h
    exact ⟨rfl, rfl⟩
  | cons b rest ih =>
    rw [lastGroup] at h
    split at h
    next hpad =>
      split at h
      next => cases h
      next =>
        split at h
        next ns' pads' hrest =>
          cases h
          obtain ⟨rfl, rfl⟩ := ih hrest
          exact ⟨rfl, by rw [hpad, List.replicate_succ]⟩
        next => cases h
    next => cases h

/-- The last group consists of the symbols of the numbers that are read, and padding. -/
theorem of_lastGroup (h : lastGroup offset position none last = .ok (ns, pads)) :
    (∀ n ∈ ns, n < 64) ∧ last = spell ns pads := by
  induction last generalizing position ns pads with
  | nil =>
    cases h
    exact ⟨fun n hnone => absurd hnone List.not_mem_nil, rfl⟩
  | cons b rest ih =>
    unfold lastGroup at h
    split at h
    next hpad =>
      split at h
      next => cases h
      next =>
        -- Padding starts here, so no number is left.
        split at h
        next ns' pads' hrest =>
          cases h
          obtain ⟨rfl, rfl⟩ := of_lastGroup_padding hrest
          exact ⟨fun n hnone => absurd hnone List.not_mem_nil,
            by rw [hpad, spell, List.replicate_succ, List.map_nil, List.nil_append]⟩
        next => cases h
    next =>
      split at h
      next hfirst => cases hfirst
      next => cases h
      next n hvalue =>
        split at h
        next ns' pads' hrest =>
          cases h
          obtain ⟨hlt, rfl⟩ := ih hrest
          obtain ⟨hn, rfl⟩ := of_value?_eq_some hvalue
          exact ⟨List.forall_mem_cons.2 ⟨hn, hlt⟩, rfl⟩
        next => cases h

/-! ### Where the last group starts -/

/-- In front of the last group there are complete groups, and behind them as many bytes are left as
the last group has. -/
theorem length_sub_lastGroupLength (length : Nat) : lastGroupLength length ≤ 4 ∧
    (length - lastGroupLength length) % 4 = 0 ∧
    length - (length - lastGroupLength length) = lastGroupLength length ∧
    (lastGroupLength length = 0 → length = 0) := by
  unfold lastGroupLength
  split <;> [skip; split] <;> omega

/-- A text of whole groups is cut before the last one. -/
theorem decode_append (hfront : front.length % 4 = 0)
    (hlast : last.length = 4 ∨ front = [] ∧ last = []) :
    decode (front ++ last) = decode.finish front.length front last := by
  have hstart : (front ++ last).length - lastGroupLength (front ++ last).length = front.length := by
    rw [List.length_append, lastGroupLength]
    obtain hlast | ⟨rfl, rfl⟩ := hlast
    · rw [hlast, if_neg (by omega), if_pos (by omega)]
      omega
    · rfl
  rw [decode, hstart, List.take_left, List.drop_left]
  obtain hlast | ⟨-, rfl⟩ := hlast
  · split
    next b => simp at hlast
    next => rfl
  · rfl

/-- A text that is read is cut into complete groups and a last one of at most four bytes. -/
theorem exists_finish_of_decode (h : decode text = .ok bytes) :
    ∃ front last, text = front ++ last ∧ front.length % 4 = 0 ∧ last.length ≤ 4 ∧
      (last = [] → front = []) ∧ decode.finish front.length front last = .ok bytes := by
  obtain ⟨hfour, hwhole, hrest, hnone⟩ := length_sub_lastGroupLength text.length
  let start := text.length - lastGroupLength text.length
  have hlength : (text.take start).length = start := by
    rw [List.length_take]
    exact Nat.min_eq_left (Nat.sub_le _ _)
  refine ⟨text.take start, text.drop start, (List.take_append_drop _ _).symm, ?_, ?_, ?_, ?_⟩
  · rw [hlength]
    exact hwhole
  · rw [List.length_drop, hrest]
    exact hfour
  · intro hlast
    have hdrop := congrArg List.length hlast
    rw [List.length_drop, hrest] at hdrop
    rw [List.length_eq_zero_iff.1 (hnone hdrop), List.take_nil]
  · rw [hlength]
    unfold decode at h
    dsimp only at h
    split at h
    next b hlast =>
      -- A single byte at the end that is no symbol is refused before anything is read.
      split at h
      next => cases h
      next => exact h
    next => exact h

/-- What the two parts have to be for a text to be read. -/
theorem finish_eq_ok_iff {start : Nat} : decode.finish start front last = .ok bytes ↔
    ∃ complete ns pads, symbols 0 front = .ok complete ∧
      lastGroup start 0 none last = .ok (ns, pads) ∧ (last = [] ∨ 2 ≤ ns.length) ∧
      (ns.length + pads) % 4 = 0 ∧ unusedBits ns = 0 ∧ bytesOf (complete ++ ns) = bytes := by
  constructor
  · intro h
    unfold decode.finish at h
    split at h
    next => cases h
    next complete hcomplete =>
      split at h
      next => cases h
      next ns pads hns =>
        split_ifs at h with htwo hpads hunused
        have htwo : last = [] ∨ 2 ≤ ns.length := by
          rwa [not_and_or, not_not, Nat.not_lt] at htwo
        exact ⟨complete, ns, pads, hcomplete, hns, htwo, not_not.1 hpads, not_not.1 hunused,
          Except.ok.inj h⟩
  · rintro ⟨complete, ns, pads, hcomplete, hns, htwo, hpads, hunused, rfl⟩
    have htwo : ¬(last ≠ [] ∧ ns.length < 2) := by
      rwa [not_and_or, not_not, Nat.not_lt]
    unfold decode.finish
    simp only [hcomplete, hns, htwo, hpads, hunused, ne_eq, not_true, if_false]

/-! ### Canonical numbers -/

/-- The numbers of a text that is read: complete groups of four, and a last group of two to four
that padding completes and whose unused bits are zero. Only an empty text has no last group. -/
structure Canonical (complete ns : List Nat) (pads : Nat) : Prop where
  lt : ∀ n ∈ complete ++ ns, n < 64
  whole : complete.length % 4 = 0
  last : 2 ≤ ns.length ∧ ns.length + pads = 4 ∨ complete = [] ∧ ns = [] ∧ pads = 0
  unused : unusedBits ns = 0

/-- A text is read exactly if its numbers are canonical. -/
theorem decode_eq_ok_iff_canonical : decode text = .ok bytes ↔ ∃ complete ns pads,
    Canonical complete ns pads ∧ text = spell (complete ++ ns) pads ∧
      bytesOf (complete ++ ns) = bytes := by
  constructor
  · intro h
    obtain ⟨front, last, rfl, hfront, hfour, hempty, h⟩ := exists_finish_of_decode h
    obtain ⟨complete, ns, pads, hcomplete, hns, htwo, hpads, hunused, rfl⟩ := finish_eq_ok_iff.1 h
    obtain ⟨hlt, rfl⟩ := of_symbols hcomplete
    obtain ⟨hlt', rfl⟩ := of_lastGroup hns
    rw [List.length_map] at hfront
    rw [length_spell] at hfour
    rw [spell_eq_nil_iff] at hempty htwo
    have hlt := List.forall_mem_append.2 ⟨hlt, hlt'⟩
    refine ⟨complete, ns, pads, ⟨hlt, hfront, ?_, hunused⟩, ?_, rfl⟩
    · obtain hnone | htwo := htwo
      · exact .inr ⟨List.map_eq_nil_iff.1 (hempty hnone), hnone⟩
      · -- A last group has at most four bytes, and their number is a multiple of four.
        exact .inl ⟨htwo, by omega⟩
    · rw [spell_append]
  · rintro ⟨complete, ns, pads, ⟨hlt, hwhole, hlast, hunused⟩, rfl, rfl⟩
    obtain ⟨hlt, hlt'⟩ := List.forall_mem_append.1 hlt
    rw [spell_append, decode_append, finish_eq_ok_iff]
    · refine ⟨complete, ns, pads, symbols_map hlt, lastGroup_spell hlt' ?_, ?_, ?_, hunused, rfl⟩
      · omega
      · obtain ⟨htwo, -⟩ | ⟨-, rfl, rfl⟩ := hlast
        · exact .inr htwo
        · exact .inl rfl
      · obtain ⟨-, hfour⟩ | ⟨-, rfl, rfl⟩ := hlast
        · rw [hfour]
        · rfl
    · rwa [List.length_map]
    · obtain ⟨-, hfour⟩ | ⟨rfl, rfl, rfl⟩ := hlast
      · exact .inl (by rwa [length_spell])
      · exact .inr ⟨rfl, rfl⟩

/-! ### Numbers and bytes -/

/-- Three bytes from four numbers are written with these numbers. -/
theorem sextets_cons {a b c d : Nat} (ha : a < 64) (hb : b < 64) (hc : c < 64) (hd : d < 64)
    (rest : List UInt8) :
    sextets (UInt8.ofNat (a * 4 + b / 16) :: UInt8.ofNat (b % 16 * 16 + c / 4) ::
      UInt8.ofNat (c % 4 * 64 + d) :: rest) = a :: b :: c :: d :: sextets rest := by
  simp only [sextets, UInt8.toNat_ofNat', List.cons.injEq, and_true]
  omega

/-- Complete groups are written with their numbers, and take three bytes each. -/
theorem bytesOf_append (ns : List Nat) : ∀ complete : List Nat, (∀ n ∈ complete, n < 64) →
    complete.length % 4 = 0 →
      sextets (bytesOf (complete ++ ns)) = complete ++ sextets (bytesOf ns) ∧
        (bytesOf (complete ++ ns)).length % 3 = (bytesOf ns).length % 3
  | [], _, _ => ⟨rfl, rfl⟩
  | a :: b :: c :: d :: rest, hlt, hwhole => by
    simp only [List.forall_mem_cons] at hlt
    obtain ⟨ha, hb, hc, hd, hrest⟩ := hlt
    have hwhole : rest.length % 4 = 0 := by
      simp only [List.length_cons] at hwhole
      omega
    obtain ⟨hsextets, hlength⟩ := bytesOf_append ns rest hrest hwhole
    constructor
    · simp only [List.cons_append, bytesOf, sextets_cons ha hb hc hd, hsextets]
    · simp only [List.cons_append, bytesOf, List.length_cons]
      omega
  | [_], _, hwhole | [_, _], _, hwhole | [_, _, _], _, hwhole => by simp at hwhole

/-- A last group is written with its numbers if its unused bits are zero, and padding completes
it. -/
theorem bytesOf_last (hlt : ∀ n ∈ ns, n < 64) (htwo : 2 ≤ ns.length) (hfour : ns.length ≤ 4)
    (hunused : unusedBits ns = 0) :
    sextets (bytesOf ns) = ns ∧ ns.length + padding (bytesOf ns).length = 4 := by
  match ns, hlt, htwo, hfour, hunused with
  | [a, b], hlt, _, _, hunused =>
    simp only [List.forall_mem_cons] at hlt
    obtain ⟨ha, hb, -⟩ := hlt
    rw [unusedBits] at hunused
    refine ⟨?_, rfl⟩
    simp only [bytesOf, sextets, UInt8.toNat_ofNat', List.cons.injEq, and_true]
    omega
  | [a, b, c], hlt, _, _, hunused =>
    simp only [List.forall_mem_cons] at hlt
    obtain ⟨ha, hb, hc, -⟩ := hlt
    rw [unusedBits] at hunused
    refine ⟨?_, rfl⟩
    simp only [bytesOf, sextets, UInt8.toNat_ofNat', List.cons.injEq, and_true]
    omega
  | [a, b, c, d], hlt, _, _, _ =>
    simp only [List.forall_mem_cons] at hlt
    obtain ⟨ha, hb, hc, hd, -⟩ := hlt
    exact ⟨sextets_cons ha hb hc hd [], by simp [bytesOf, padding]⟩
  | _ :: _ :: _ :: _ :: _ :: _, _, _, hfour, _ =>
    simp only [List.length_cons] at hfour
    omega

/-- Canonical numbers are the ones that their bytes are written with. -/
theorem Canonical.sextets_bytesOf (h : Canonical complete ns pads) :
    sextets (bytesOf (complete ++ ns)) = complete ++ ns ∧
      padding (bytesOf (complete ++ ns)).length = pads := by
  obtain ⟨hlt, hwhole, hlast, hunused⟩ := h
  obtain ⟨hlt, hlt'⟩ := List.forall_mem_append.1 hlt
  obtain ⟨hsextets, hlength⟩ := bytesOf_append ns complete hlt hwhole
  obtain ⟨htwo, hfour⟩ | ⟨rfl, rfl, rfl⟩ := hlast
  · obtain ⟨hns, hpads⟩ := bytesOf_last hlt' htwo (by omega) hunused
    -- Complete groups do not matter for the padding, as they take three bytes each.
    refine ⟨by rw [hsextets, hns], ?_⟩
    rw [padding, hlength, ← padding]
    omega
  · exact ⟨rfl, rfl⟩

/-- Bytes are what their numbers stand for. -/
theorem bytesOf_sextets : ∀ bytes : List UInt8, bytesOf (sextets bytes) = bytes
  | [] => rfl
  | [a] => by
    have ha : a.toNat / 4 * 4 + a.toNat % 4 * 16 / 16 = a.toNat := by omega
    rw [sextets, bytesOf, ha, UInt8.ofNat_toNat]
  | [a, b] => by
    have ha : a.toNat / 4 * 4 + (a.toNat % 4 * 16 + b.toNat / 16) / 16 = a.toNat := by
      have := b.toNat_lt
      omega
    have hb : (a.toNat % 4 * 16 + b.toNat / 16) % 16 * 16 + b.toNat % 16 * 4 / 4 = b.toNat := by
      have := b.toNat_lt
      omega
    rw [sextets, bytesOf, ha, hb, UInt8.ofNat_toNat, UInt8.ofNat_toNat]
  | a :: b :: c :: rest => by
    have hb := b.toNat_lt
    have hc := c.toNat_lt
    have h₁ : a.toNat / 4 * 4 + (a.toNat % 4 * 16 + b.toNat / 16) / 16 = a.toNat := by omega
    have h₂ : (a.toNat % 4 * 16 + b.toNat / 16) % 16 * 16 + (b.toNat % 16 * 4 + c.toNat / 64) / 4 =
        b.toNat := by omega
    have h₃ : (b.toNat % 16 * 4 + c.toNat / 64) % 4 * 64 + c.toNat % 64 = c.toNat := by omega
    rw [sextets, bytesOf, h₁, h₂, h₃, UInt8.ofNat_toNat, UInt8.ofNat_toNat, UInt8.ofNat_toNat,
      bytesOf_sextets rest]

/-- Bytes are written with numbers of six bits. -/
theorem lt_of_mem_sextets : ∀ bytes : List UInt8, ∀ n ∈ sextets bytes, n < 64
  | [] => fun n hnone => absurd hnone List.not_mem_nil
  | [a] => by
    have := a.toNat_lt
    simp only [sextets, List.forall_mem_cons]
    exact ⟨by omega, by omega, fun n hnone => absurd hnone List.not_mem_nil⟩
  | [a, b] => by
    have := a.toNat_lt
    have := b.toNat_lt
    simp only [sextets, List.forall_mem_cons]
    exact ⟨by omega, by omega, by omega, fun n hnone => absurd hnone List.not_mem_nil⟩
  | a :: b :: c :: rest => by
    have := a.toNat_lt
    have := b.toNat_lt
    have := c.toNat_lt
    simp only [sextets, List.forall_mem_cons]
    exact ⟨by omega, by omega, by omega, by omega, lt_of_mem_sextets rest⟩

theorem sextets_ne_nil : ∀ {bytes : List UInt8}, bytes ≠ [] → sextets bytes ≠ []
  | [], h => absurd rfl h
  | [_], _ | [_, _], _ | _ :: _ :: _ :: _, _ => List.cons_ne_nil _ _

/-- The numbers of bytes end in a last group. -/
theorem exists_canonical : ∀ bytes : List UInt8, ∃ complete ns,
    sextets bytes = complete ++ ns ∧ Canonical complete ns (padding bytes.length)
  | [] => ⟨[], [], rfl, lt_of_mem_sextets [], rfl, .inr ⟨rfl, rfl, rfl⟩, rfl⟩
  | [a] => by
    refine ⟨[], sextets [a], rfl, lt_of_mem_sextets [a], rfl, .inl ⟨Nat.le_refl 2, rfl⟩, ?_⟩
    exact Nat.mul_mod_left _ 16
  | [a, b] => by
    refine ⟨[], sextets [a, b], rfl, lt_of_mem_sextets [a, b], rfl, .inl ⟨Nat.le_succ 2, rfl⟩, ?_⟩
    exact Nat.mul_mod_left _ 4
  | [a, b, c] => by
    refine ⟨[], sextets [a, b, c], rfl, lt_of_mem_sextets [a, b, c], rfl, .inl ?_, rfl⟩
    simp [sextets, padding]
  | a :: b :: c :: d :: rest => by
    obtain ⟨complete, ns, hsextets, -, hwhole, hlast, hunused⟩ := exists_canonical (d :: rest)
    -- The first three bytes make a complete group in front of the others.
    have hfirst : sextets (a :: b :: c :: d :: rest) =
        sextets [a, b, c] ++ complete ++ ns := by
      rw [List.append_assoc, ← hsextets]
      rfl
    have hpadding : padding (a :: b :: c :: d :: rest).length = padding (d :: rest).length := by
      simp only [padding, List.length_cons]
      omega
    refine ⟨sextets [a, b, c] ++ complete, ns, hfirst, ?_, ?_, ?_, hunused⟩
    · rw [← hfirst]
      exact lt_of_mem_sextets _
    · rw [List.length_append, Nat.add_mod, hwhole]
      simp [sextets]
    · obtain hlast | ⟨rfl, rfl, -⟩ := hlast
      · rw [hpadding]
        exact .inl hlast
      · -- There are other bytes, so they are written with some numbers.
        exact absurd hsextets (sextets_ne_nil (List.cons_ne_nil d rest))

/-- Bytes are read from what they are written as, and from nothing else. -/
theorem decode_eq_ok_iff : decode text = .ok bytes ↔ text = encodeStandard bytes := by
  rw [decode_eq_ok_iff_canonical]
  constructor
  · rintro ⟨complete, ns, pads, hcanonical, rfl, rfl⟩
    obtain ⟨hsextets, hpads⟩ := hcanonical.sextets_bytesOf
    rw [encodeStandard, hsextets, hpads, spell]
  · rintro rfl
    obtain ⟨complete, ns, hsextets, hcanonical⟩ := exists_canonical bytes
    refine ⟨complete, ns, _, hcanonical, ?_, ?_⟩
    · rw [spell, ← hsextets, encodeStandard]
    · rw [← hsextets, bytesOf_sextets]

example : ascii (encodeStandard [102, 111, 111, 98]) = "Zm9vYg==" := by decide

/-! ### Written texts -/

/-- A standard form consists of symbols and padding. -/
theorem forall_mem_encodeStandard {p : UInt8 → Prop} (hsymbol : ∀ n, n < 64 → p (standardSymbol n))
    (hpad : p pad) : ∀ b ∈ encodeStandard bytes, p b := by
  intro b hb
  rw [encodeStandard, List.mem_append, List.mem_map] at hb
  obtain ⟨n, hn, rfl⟩ | hb := hb
  · exact hsymbol n (lt_of_mem_sextets bytes n hn)
  · rw [List.eq_of_mem_replicate hb]
    exact hpad

end SignOn.Base64
