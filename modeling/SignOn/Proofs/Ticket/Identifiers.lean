import Mathlib.Algebra.Ring.Nat
import SignOn.Text.Blank
import SignOn.Ticket.Issuer

/-!
# Identifiers of issued tickets

An identifier is the tag of a kind, a number and random text, with dashes between them. Neither tags
nor numbers have a dash in them, so the first two parts can be told from the identifier, whatever
the random text is. As an issuer counts its identifiers, the next one is always a new one.

## Main definitions

* `Issuer.Numbered` - the issuer counts the identifiers

## Main results

* `Issuer.idOf_inj` - an identifier tells its kind and its number
* `Issuer.isBlank_idOf` - no identifier is blank
* `Issuer.Numbered.nextId_not_mem` - the next identifier is a new one
-/

namespace SignOn.Issuer

variable {kind kind' : TicketKind} {number number' : UInt64} {random random' : List UInt8}

/-! ### Reading up to a dash -/

private theorem takeWhile_append_dash {front : List Char} (h : '-' ∉ front) (rest : List Char) :
    (front ++ '-' :: rest).takeWhile (· ≠ '-') = front := by
  rw [List.takeWhile_append_of_pos]
  · simp
  · intro c hc
    exact decide_eq_true fun e => h (e ▸ hc)

private theorem dropWhile_append_dash {front : List Char} (h : '-' ∉ front) (rest : List Char) :
    (front ++ '-' :: rest).dropWhile (· ≠ '-') = '-' :: rest := by
  rw [List.dropWhile_append_of_pos]
  · simp
  · intro c hc
    exact decide_eq_true fun e => h (e ▸ hc)

/-- What stands before the first dash and what stands after it can be told apart. -/
private theorem append_dash_inj {front front' rest rest' : List Char} (h : '-' ∉ front)
    (h' : '-' ∉ front') (heq : front ++ '-' :: rest = front' ++ '-' :: rest') :
    front = front' ∧ rest = rest' := by
  have hfront := congrArg (List.takeWhile (· ≠ '-')) heq
  have hrest := congrArg (List.dropWhile (· ≠ '-')) heq
  rw [takeWhile_append_dash h, takeWhile_append_dash h'] at hfront
  rw [dropWhile_append_dash h, dropWhile_append_dash h'] at hrest
  exact ⟨hfront, (List.cons.inj hrest).2⟩

/-! ### The parts of an identifier -/

private theorem dash_not_mem_tag (kind : TicketKind) : '-' ∉ kind.tag.toList := by
  cases kind <;> decide

private theorem dash_not_mem_digits (n : Nat) : '-' ∉ Nat.toDigits 10 n := by
  intro hmem
  have hdigit := Nat.isDigit_of_mem_toDigits (by decide) (by decide) hmem
  revert hdigit
  decide

theorem toList_idOf (kind : TicketKind) (number : UInt64) (random : List UInt8) :
    (idOf kind number random).toList = kind.tag.toList ++ '-' ::
      (Nat.toDigits 10 number.toNat ++ '-' :: (Base64.ascii (Base64.encodeUrl random)).toList) := by
  simp [idOf]

private theorem tag_inj (h : kind.tag.toList = kind'.tag.toList) : kind = kind' := by
  revert h
  cases kind <;> cases kind' <;> decide

/-- An identifier tells its kind and its number. -/
theorem idOf_inj (h : idOf kind number random = idOf kind' number' random') :
    kind = kind' ∧ number = number' := by
  have hlist := congrArg String.toList h
  rw [toList_idOf, toList_idOf] at hlist
  obtain ⟨htag, hrest⟩ := append_dash_inj (dash_not_mem_tag kind) (dash_not_mem_tag kind') hlist
  obtain ⟨hdigits, -⟩ := append_dash_inj (dash_not_mem_digits _) (dash_not_mem_digits _) hrest
  refine ⟨tag_inj htag, UInt64.toNat_inj.1 ?_⟩
  have hnumber := congrArg (fun digits => Nat.ofDigitChars 10 digits 0) hdigits
  simpa only [Nat.ofDigitChars_ten_toDigits] using hnumber

/-- A dash is no white space. -/
theorem isBlank_idOf (kind : TicketKind) (number : UInt64) (random : List UInt8) :
    Text.isBlank (idOf kind number random) = false := by
  rw [Bool.eq_false_iff, ne_eq, Text.isBlank_iff, toList_idOf]
  intro hall
  have hdash := hall '-' (List.mem_append_right _ List.mem_cons_self)
  revert hdash
  decide

/-! ### Numbers of identifiers -/

variable {issuer : Issuer} {ids : List String}

/-- The issuer counts identifiers, and none of them has a number that is still to come. -/
def Numbered (issuer : Issuer) (ids : List String) : Prop :=
  issuer.sequence.toNat = ids.length ∧ ∀ id ∈ ids, ∃ kind number random,
    id = idOf kind number random ∧ number.toNat ≤ ids.length

/-- One identifier more, with the next number. -/
theorem Numbered.next (h : issuer.Numbered ids) (kind : TicketKind) (random : List UInt8)
    (hlength : ids.length + 1 < 2 ^ 64) :
    issuer.advance.Numbered (issuer.nextId kind random :: ids) := by
  obtain ⟨hsequence, hnumbers⟩ := h
  have hadvance : (issuer.sequence + 1).toNat = ids.length + 1 := by
    rw [UInt64.toNat_add, hsequence]
    exact Nat.mod_eq_of_lt hlength
  refine ⟨hadvance, List.forall_mem_cons.2 ⟨?_, fun id hid => ?_⟩⟩
  · exact ⟨kind, _, random, rfl, Nat.le_of_eq hadvance⟩
  · obtain ⟨kind, number, random, hid, hle⟩ := hnumbers id hid
    exact ⟨kind, number, random, hid, Nat.le_succ_of_le hle⟩

/-- The next identifier is a new one, whatever its random bytes are. -/
theorem Numbered.nextId_not_mem (h : issuer.Numbered ids) (hlength : ids.length + 1 < 2 ^ 64)
    (kind : TicketKind) (random : List UInt8) : issuer.nextId kind random ∉ ids := by
  intro hmem
  obtain ⟨hsequence, hnumbers⟩ := h
  obtain ⟨kind', number, random', hid, hle⟩ := hnumbers _ hmem
  obtain ⟨-, rfl⟩ := Issuer.idOf_inj hid
  rw [UInt64.toNat_add, hsequence] at hle
  have hnext : (ids.length + (1 : UInt64).toNat) % 2 ^ 64 = ids.length + 1 :=
    Nat.mod_eq_of_lt hlength
  omega

end SignOn.Issuer
