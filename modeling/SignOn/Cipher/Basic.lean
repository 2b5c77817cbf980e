import SignOn.Bytes.Blocks
import SignOn.Registry.Error

/-!
# Ciphers

A cipher turns bytes into a ciphertext and back. The random bytes that an encryption needs are
passed in, so encryption is a function. A cipher that is not enabled is never applied.

## Main definitions

* `Cipher` - a name, whether it is enabled, encryption with a nonce, and decryption
* `Cipher.RoundTrips` - decryption undoes encryption
* `Cipher.disabled` - the cipher that is not enabled
* `Cipher.masking` - combines every byte with a mask
* `Cipher.refusing` - a cipher whose calls fail with planned reasons
-/

namespace SignOn

/-- Turns bytes into a ciphertext and back. -/
structure Cipher where
  /-- A short name. -/
  name : String
  /-- Whether the cipher is applied at all. -/
  enabled : Bool
  /-- How many random bytes an encryption takes. -/
  nonceLength : Nat
  /-- The ciphertext of bytes under a nonce. -/
  encrypt : (nonce plain : List UInt8) → Except RegistryError (List UInt8)
  /-- The bytes of a ciphertext. -/
  decrypt : List UInt8 → Except RegistryError (List UInt8)

namespace Cipher

/-- Whatever the nonce, decryption undoes an encryption that succeeds. -/
def RoundTrips (c : Cipher) : Prop :=
  ∀ nonce plain text, nonce.length = c.nonceLength → c.encrypt nonce plain = .ok text →
    c.decrypt text = .ok plain

/-- Encryption succeeds for every nonce and all bytes. -/
def AlwaysEncrypts (c : Cipher) : Prop :=
  ∀ nonce plain, nonce.length = c.nonceLength → ∃ text, c.encrypt nonce plain = .ok text

/-- The cipher that leaves bytes as they are and is not enabled. -/
def disabled : Cipher where
  name := "noop"
  enabled := false
  nonceLength := 0
  encrypt _ plain := .ok plain
  decrypt text := .ok text

/-- Combines every byte with a mask. -/
def masking (mask : UInt8) (enabled : Bool) : Cipher where
  name := "xor"
  enabled := enabled
  nonceLength := 0
  encrypt _ plain := .ok (plain.map (· ^^^ mask))
  decrypt text := .ok (text.map (· ^^^ mask))

/-- The cipher whose encryption or decryption fails when a reason for it is planned. -/
def refusing (c : Cipher) (encryption decryption : Option String) : Cipher :=
  { c with
    encrypt := fun nonce plain =>
      match encryption with
      | some reason => .error (.crypto reason)
      | none => c.encrypt nonce plain
    decrypt := fun text =>
      match decryption with
      | some reason => .error (.crypto reason)
      | none => c.decrypt text }

theorem roundTrips_masking (mask : UInt8) (enabled : Bool) : (masking mask enabled).RoundTrips := by
  rintro nonce plain text - h
  obtain rfl := Except.ok.inj h
  have twice : (fun b => b ^^^ mask) ∘ (fun b => b ^^^ mask) = id := by
    funext b
    exact (UInt8.xor_assoc b mask mask).trans (by rw [UInt8.xor_self, UInt8.xor_zero, id])
  simp [masking, twice]

theorem alwaysEncrypts_masking (mask : UInt8) (enabled : Bool) :
    (masking mask enabled).AlwaysEncrypts :=
  fun _ _ _ => ⟨_, rfl⟩

end Cipher

end SignOn
