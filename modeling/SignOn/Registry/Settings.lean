import SignOn.Cipher.AesGcm
import SignOn.Text.Quoted
import SignOn.Text.Record

/-!
# Settings of encryption

Whether tickets are encrypted at rest, and with which key. Where encryption is off, the key is kept
but not looked at.

## Main definitions

* `EncryptionSettings` - on or off, and the key as text
* `EncryptionSettings.withKey`, `EncryptionSettings.withEnabled` - changing them
* `EncryptionSettings.cipher` - the cipher that they describe
-/

namespace SignOn

/-- Whether tickets are encrypted at rest, and the key in base64. -/
structure EncryptionSettings where
  enabled : Bool
  key : Option String
  deriving DecidableEq, Repr

namespace EncryptionSettings

/-- Encryption is off, and there is no key. -/
def off : EncryptionSettings := ⟨false, none⟩

/-- Sets the key, and turns encryption on. -/
def withKey (_ : EncryptionSettings) (key : String) : EncryptionSettings := ⟨true, some key⟩

/-- Turns encryption on or off; the key stays. -/
def withEnabled (s : EncryptionSettings) (enabled : Bool) : EncryptionSettings :=
  { s with enabled := enabled }

/-- The cipher that settings describe. -/
def cipher (s : EncryptionSettings) : Except RegistryError Cipher :=
  if s.enabled then
    match s.key with
    | none => .error (.configuration "Encryption is enabled but no encryption key is set")
    | some key => (AesKey.ofBase64 key).map Cipher.aes
  else .ok .disabled

/-- The text that settings are shown as, without the key. -/
def diagnosis (s : EncryptionSettings) : String :=
  Text.record "CryptoConfig"
    [("enabled", if s.enabled then "true" else "false"),
      ("encryption_key", Text.present (s.key.map fun _ => Text.quote "<redacted>"))]

end EncryptionSettings

end SignOn
