import SignOn.Bytes.Base64
import SignOn.Cipher.Basic
import SignOn.Cipher.Gcm
import SignOn.Tape
import SignOn.Text.Blank
import SignOn.Text.Utf8

/-!
# The cipher for tickets at rest

AES with a 256-bit key in Galois counter mode. A ciphertext is the nonce of twelve bytes, followed
by the encrypted bytes and their tag.

## Main definitions

* `AesKey` - thirty-two bytes
* `AesKey.ofBytes`, `AesKey.ofBase64` - keys from outside
* `AesKey.draw` - a random key
* `Cipher.aes` - the cipher of a key

## Main results

* `Cipher.roundTrips_aes` - decryption undoes encryption
-/

namespace SignOn

/-- How many bytes a nonce has. -/
def aesNonceLength : Nat := 12

/-- The key of the cipher. -/
structure AesKey where
  bytes : List UInt8
  length_bytes : bytes.length = 32

namespace AesKey

/-- The key of thirty-two bytes. -/
def ofBytes (bytes : List UInt8) : Except RegistryError AesKey :=
  if h : bytes.length = 32 then .ok ⟨bytes, h⟩
  else .error (.configuration "Encryption key must be exactly 32 bytes (256 bits) for AES-256-GCM")

/-- The key that a text in base64 stands for; white space around it does not matter. -/
def ofBase64 (text : String) : Except RegistryError AesKey :=
  match Base64.decode (Utf8.encode (Text.trim text)) with
  | .ok bytes => ofBytes bytes
  | .error fault =>
    .error (.configuration ("Encryption key is not valid base64: " ++ fault.message))

/-- A key drawn from a tape of random bytes. -/
def draw (tape : Tape) : AesKey := ⟨(tape.draw 32).1, by simp⟩

end AesKey

namespace Cipher

/-- The cipher of a key. -/
def aes (key : AesKey) : Cipher :=
  let words := Aes.expandKey key.bytes
  { name := "aes-256-gcm"
    enabled := true
    nonceLength := aesNonceLength
    encrypt := fun nonce plain =>
      if plain.length ≤ Gcm.maxLength then
        .ok (nonce ++ Gcm.encrypt (Aes.encryptBlock words) nonce plain)
      else .error (.crypto "Encryption failed: aead::Error")
    decrypt := fun text =>
      if text.length < aesNonceLength then
        .error (.crypto "Encrypted data too short (missing nonce)")
      else
        let nonce := text.take aesNonceLength
        match Gcm.decrypt? (Aes.encryptBlock words) nonce (text.drop aesNonceLength) with
        | some plain => .ok plain
        | none => .error (.crypto "Decryption failed: aead::Error") }

theorem roundTrips_aes (key : AesKey) : (aes key).RoundTrips := by
  intro nonce plain text hn h
  have hn : nonce.length = aesNonceLength := hn
  simp only [aes] at h
  split at h
  case isFalse => cases h
  case isTrue hfit =>
    obtain rfl := Except.ok.inj h
    simp only [aes, List.length_append, hn, Nat.not_lt.2 (Nat.le_add_right _ _), if_false]
    rw [List.take_left' hn, List.drop_left' hn, Gcm.decrypt?_encrypt hfit]

end Cipher

end SignOn
