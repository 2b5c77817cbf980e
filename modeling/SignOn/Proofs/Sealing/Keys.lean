import Mathlib.Data.List.Nodup
import SignOn.Registry.Sealing

/-!
# Storage keys

With an active cipher the storage key of an identifier is its digest in hexadecimal, unless it is
blank. So the key tells whether the identifier is blank, and as long as no two identifiers have the
same digest it tells the identifier.

## Main definitions

* `Hex.isDigit` - the lowercase digits
* `Sha512.CollisionFree` - no two of some identifiers have the same digest
* `Sealing.Separates` - no two of some identifiers have the same storage key

## Main results

* `Sealing.isBlank_key` - exactly the blank identifiers have a blank key
* `Sealing.cases_of_key_eq` - what it takes to share a storage key
* `Sealing.separates_of_collisionFree` - without collisions, identifiers have keys of their own
* `Sealing.key_shared_iff` - which identifiers share a storage key, and what keys look like
-/

namespace SignOn

/-! ### Hexadecimal digits -/

namespace Hex

/-- The lowercase hexadecimal digits. -/
def isDigit (c : Char) : Bool := ('0' ≤ c && c ≤ '9') || ('a' ≤ c && c ≤ 'f')

theorem isDigit_digit {n : Nat} (h : n < 16) : isDigit (digit n) = true := by
  have all : ∀ k, k < 16 → isDigit (digit k) = true := by decide
  exact all n h

/-- Bytes are written in lowercase digits only. -/
theorem isDigit_of_mem_encode {bytes : List UInt8} {c : Char} (h : c ∈ (encode bytes).toList) :
    isDigit c = true := by
  rw [encode, String.toList_ofList] at h
  induction bytes with
  | nil => exact absurd h List.not_mem_nil
  | cons b rest ih =>
    have hb := b.toNat_lt
    rw [encodeChars, List.mem_cons, List.mem_cons] at h
    obtain rfl | rfl | hrest := h
    · exact isDigit_digit (by omega)
    · exact isDigit_digit (by omega)
    · exact ih hrest

/-- No digit is white space. -/
private theorem not_isSpace_digit {n : Nat} (h : n < 16) : Text.isSpace (digit n) = false := by
  have all : ∀ k, k < 16 → Text.isSpace (digit k) = false := by decide
  exact all n h

/-- A text of digits is blank only if there are none. -/
theorem isBlank_encode {bytes : List UInt8} (h : bytes ≠ []) :
    Text.isBlank (encode bytes) = false := by
  cases bytes with
  | nil => exact absurd rfl h
  | cons b rest =>
    have hb := b.toNat_lt
    have hdigit : Text.isSpace (digit (b.toNat / 16)) = false := not_isSpace_digit (by omega)
    simp [Text.isBlank, encode, encodeChars, hdigit]

end Hex

/-- No two of some identifiers have the same digest. -/
def Sha512.CollisionFree (ids : String → Prop) : Prop :=
  ∀ a b, ids a → ids b → digest (Utf8.encode a) = digest (Utf8.encode b) → a = b

/-- It is enough to compute the digests. -/
theorem Sha512.collisionFree_of_nodup {ids : List String}
    (h : (ids.map fun id => digest (Utf8.encode id)).Nodup) : CollisionFree (· ∈ ids) :=
  fun _ _ ha hb => List.inj_on_of_nodup_map h ha hb

theorem Sha512.isBlank_hexDigest (message : List UInt8) :
    Text.isBlank (hexDigest message) = false := by
  apply Hex.isBlank_encode
  intro hnil
  have hlength := length_digest message
  rw [hnil] at hlength
  cases hlength

namespace Sealing

variable {s : Sealing} {ids : String → Prop} {id : String}

/-! ### Blank keys -/

theorem key_of_active (hactive : s.isActive = true) (h : Text.isBlank id = false) :
    s.key id = Sha512.hexDigest (Utf8.encode id) := by
  simp [key, hactive, h]

/-- Exactly the blank identifiers have a blank key. -/
@[simp] theorem isBlank_key (s : Sealing) (id : String) :
    Text.isBlank (s.key id) = Text.isBlank id := by
  cases hblank : Text.isBlank id with
  | true => rw [key_of_isBlank s hblank, hblank]
  | false =>
    cases hactive : s.isActive with
    | true => rw [key_of_active hactive hblank, Sha512.isBlank_hexDigest]
    | false => rw [key_of_inactive hactive, hblank]

/-! ### Keys of different identifiers -/

/-- No two of some identifiers have the same storage key. -/
def Separates (s : Sealing) (ids : String → Prop) : Prop :=
  ∀ a b, ids a → ids b → s.key a = s.key b → a = b

theorem Separates.key_inj (h : s.Separates ids) {a b : String} (ha : ids a) (hb : ids b) :
    s.key a = s.key b ↔ a = b :=
  ⟨h a b ha hb, congrArg s.key⟩

theorem Separates.mono (h : s.Separates ids) {fewer : String → Prop}
    (hfewer : ∀ id, fewer id → ids id) : s.Separates fewer :=
  fun a b ha hb => h a b (hfewer a ha) (hfewer b hb)

theorem separates_of_inactive (h : s.isActive = false) (ids : String → Prop) : s.Separates ids := by
  intro a b _ _ hkey
  rwa [key_of_inactive h, key_of_inactive h] at hkey

/-- Different identifiers share a storage key only if they are not blank and have the same digest. A
blank identifier shares its key with no other one, as its key is blank. -/
theorem cases_of_key_eq {a b : String} (h : s.key a = s.key b) :
    a = b ∨ s.isActive = true ∧ Text.isBlank a = false ∧ Text.isBlank b = false ∧
      Sha512.digest (Utf8.encode a) = Sha512.digest (Utf8.encode b) := by
  cases hactive : s.isActive with
  | false =>
    rw [key_of_inactive hactive, key_of_inactive hactive] at h
    exact .inl h
  | true =>
    -- The key tells whether the identifier is blank, so both are or none is.
    have hblank : Text.isBlank a = Text.isBlank b := by
      rw [← isBlank_key s a, h, isBlank_key]
    cases hb : Text.isBlank b with
    | true =>
      rw [hb] at hblank
      rw [key_of_isBlank s hblank, key_of_isBlank s hb] at h
      exact .inl h
    | false =>
      rw [hb] at hblank
      rw [key_of_active hactive hblank, key_of_active hactive hb, Sha512.hexDigest_inj] at h
      exact .inr ⟨rfl, hblank, rfl, h⟩

/-- Without collisions, identifiers have storage keys of their own. -/
theorem separates_of_collisionFree (h : s.isActive = true → Sha512.CollisionFree ids) :
    s.Separates ids := by
  intro a b ha hb hkey
  obtain rfl | ⟨hactive, -, -, hdigest⟩ := cases_of_key_eq hkey
  · rfl
  · exact h hactive a b ha hb hdigest

/-- Two identifiers share a storage key exactly if they are the same, or a cipher is active, neither
is blank, and their digests are the same. With an active cipher the key of an identifier that is not
blank consists of 128 lowercase hexadecimal digits, which spell its digest. So it is not blank, and
no blank identifier has this key. -/
theorem key_shared_iff (s : Sealing) :
    (∀ a b, s.key a = s.key b ↔ a = b ∨ s.isActive = true ∧ Text.isBlank a = false ∧
      Text.isBlank b = false ∧ Sha512.digest (Utf8.encode a) = Sha512.digest (Utf8.encode b)) ∧
    (s.isActive = true → ∀ id, Text.isBlank id = false →
      (s.key id).length = 128 ∧ (∀ c ∈ (s.key id).toList, Hex.isDigit c = true) ∧
      Hex.decode? (s.key id) = some (Sha512.digest (Utf8.encode id)) ∧
      Text.isBlank (s.key id) = false ∧
      ∀ blank, Text.isBlank blank = true → s.key blank ≠ s.key id) := by
  refine ⟨fun a b => ⟨cases_of_key_eq, ?_⟩, fun hactive id hid => ?_⟩
  · rintro (rfl | ⟨hactive, ha, hb, hdigest⟩)
    · rfl
    · rw [key_of_active hactive ha, key_of_active hactive hb, Sha512.hexDigest_inj]
      exact hdigest
  · have hkey := key_of_active hactive hid
    refine ⟨?_, ?_, ?_, ?_, fun blank hblank heq => ?_⟩
    · rw [hkey, Sha512.length_hexDigest]
    · rw [hkey]
      exact fun c hc => Hex.isDigit_of_mem_encode hc
    · rw [hkey, Sha512.hexDigest, Hex.decode?_encode]
    · rw [isBlank_key, hid]
    · have hsame := congrArg Text.isBlank heq
      rw [isBlank_key, isBlank_key, hblank, hid] at hsame
      cases hsame

example : (withCipher (.masking 90 true)).key "abc" =
    "ddaf35a193617abacc417349ae20413112e6fa4e89a97ea20a9eeee64b55d39a" ++
      "2192992a274fc1a836ba3c23a3feebbd454d4423643ce80e2a9ac94fa54ca49f" := by
  decide +kernel

end Sealing

end SignOn
