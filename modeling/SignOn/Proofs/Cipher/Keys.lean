import SignOn.Proofs.Bytes.Base64
import SignOn.Registry.Settings

/-!
# Keys from texts

A key comes from outside as a text in base64. Each key has one such text, and with white space
around it removed a text is taken for a key exactly if it is that of the key. Settings that turn
encryption on need such a text; settings that turn it off do not look at it.

## Main definitions

* `AesKey.toBase64` - the text of a key

## Main results

* `AesKey.ofBase64_eq_ok_iff` - which texts are taken for a key
* `EncryptionSettings.keys_accepted_exactly` - which texts are keys, and which ciphers come of them
-/

namespace SignOn

/-- Bytes below 128 are the UTF-8 form of their text. -/
theorem Utf8.encode_ascii {bytes : List UInt8} (h : ∀ b ∈ bytes, b.toNat < 128) :
    encode (Base64.ascii bytes) = bytes := by
  rw [encode, Base64.ascii, String.toByteArray_ofList]
  induction bytes with
  | nil => rfl
  | cons b rest ih =>
    obtain ⟨hb, hrest⟩ := List.forall_mem_cons.1 h
    have hvalue : (Char.ofNat b.toNat).val.toNat = b.toNat := by
      have hvalid : b.toNat.isValidChar := .inl (by omega)
      rw [Char.ofNat, dif_pos hvalid]
      rfl
    have hchar : String.utf8EncodeChar (Char.ofNat b.toNat) = [b] := by
      rw [String.utf8EncodeChar, hvalue, if_pos (by omega), UInt8.ofNat_toNat]
    rw [List.map_cons, List.utf8Encode_cons, List.utf8Encode_singleton, hchar]
    simp [ih hrest]

/-! ### Texts of keys -/

namespace AesKey

variable {key : AesKey} {text : String}

/-- The text of a key: its bytes in base64. -/
def toBase64 (key : AesKey) : String := Base64.ascii (Base64.encodeStandard key.bytes)

theorem encode_toBase64 (key : AesKey) :
    Utf8.encode key.toBase64 = Base64.encodeStandard key.bytes := by
  have hsymbol : ∀ n, n < 64 → (Base64.standardSymbol n).toNat < 128 := by decide
  exact Utf8.encode_ascii (Base64.forall_mem_encodeStandard hsymbol (by decide))

/-- The text of a key has no white space around it. -/
theorem trim_toBase64 (key : AesKey) : Text.trim key.toBase64 = key.toBase64 := by
  apply Text.trim_eq_self
  rw [AesKey.toBase64, Base64.ascii, String.toList_ofList, List.forall_mem_map]
  apply Base64.forall_mem_encodeStandard
  · decide
  · decide

theorem ofBytes_eq_ok_iff {bytes : List UInt8} : ofBytes bytes = .ok key ↔ bytes = key.bytes := by
  constructor
  · intro h
    unfold ofBytes at h
    split at h
    next => cases h; rfl
    next => cases h
  · rintro rfl
    exact dif_pos key.length_bytes

/-- A text is taken for a key exactly if, without the white space around it, it is that of the
key. -/
theorem ofBase64_eq_ok_iff : ofBase64 text = .ok key ↔ Text.trim text = key.toBase64 := by
  have hdecode : ofBase64 text = .ok key ↔
      Base64.decode (Utf8.encode (Text.trim text)) = .ok key.bytes := by
    unfold ofBase64
    cases Base64.decode (Utf8.encode (Text.trim text)) with
    | error fault => simp
    | ok bytes => rw [ofBytes_eq_ok_iff, Except.ok.injEq]
  rw [hdecode, Base64.decode_eq_ok_iff, ← encode_toBase64]
  exact ⟨Utf8.encode_injective, congrArg Utf8.encode⟩

/-- What is no key is a fault of the settings. -/
theorem exists_configuration_of_error {e : RegistryError} (h : ofBase64 text = .error e) :
    ∃ reason, e = .configuration reason := by
  unfold ofBase64 ofBytes at h
  split at h
  next =>
    split at h
    next => cases h
    next => exact ⟨_, (Except.error.inj h).symm⟩
  next => exact ⟨_, (Except.error.inj h).symm⟩

end AesKey

/-! ### Ciphers from settings -/

namespace EncryptionSettings

variable {s : EncryptionSettings} {key : AesKey} {text : String}

theorem cipher_of_disabled (h : s.enabled = false) : s.cipher = .ok .disabled := by
  rw [cipher, h, if_neg Bool.false_ne_true]

theorem cipher_of_ok (h : s.enabled = true) (hkey : s.key = some text)
    (hread : AesKey.ofBase64 text = .ok key) : s.cipher = .ok (.aes key) := by
  simp only [cipher, h, if_true, hkey, hread, Except.map]

/-- Where encryption is on, the settings are at fault exactly if there is no key, or a text that is
taken for none. -/
theorem exists_cipher_error_iff (h : s.enabled = true) :
    (∃ reason, s.cipher = .error (.configuration reason)) ↔
      s.key = none ∨ ∃ text e, s.key = some text ∧ AesKey.ofBase64 text = .error e := by
  cases hkey : s.key with
  | none => simp [cipher, h, hkey]
  | some text =>
    cases hread : AesKey.ofBase64 text with
    | ok key => simp [cipher_of_ok h hkey hread, hread]
    | error e =>
      obtain ⟨reason, rfl⟩ := AesKey.exists_configuration_of_error hread
      refine iff_of_true ⟨reason, ?_⟩ (.inr ⟨text, _, rfl, hread⟩)
      simp only [cipher, h, if_true, hkey, hread, Except.map]

/-- A text is taken for a key exactly if, without the white space around it, it is the base64 form
of the key; every other text is a fault of the settings. So each key has exactly one text without
white space around it, and is read back from it. Where encryption is off, whatever text there is,
the cipher is not enabled. Where it is on, the settings are at fault exactly if there is no text or
one that is taken for no key, and otherwise describe the cipher of the key. -/
theorem keys_accepted_exactly :
    (∀ text key, AesKey.ofBase64 text = .ok key ↔ Text.trim text = key.toBase64) ∧
    (∀ text, (∀ key : AesKey, Text.trim text ≠ key.toBase64) →
      ∃ reason, AesKey.ofBase64 text = .error (.configuration reason)) ∧
    (∀ key : AesKey, AesKey.ofBase64 key.toBase64 = .ok key ∧
      Text.trim key.toBase64 = key.toBase64 ∧
      ∀ text, Text.trim text = text → AesKey.ofBase64 text = .ok key → text = key.toBase64) ∧
    (∀ s : EncryptionSettings, s.enabled = false → ∃ c, s.cipher = .ok c ∧ c.enabled = false) ∧
    ∀ s : EncryptionSettings, s.enabled = true →
      ((∃ reason, s.cipher = .error (.configuration reason)) ↔
        s.key = none ∨ ∃ text e, s.key = some text ∧ AesKey.ofBase64 text = .error e) ∧
      ∀ text key, s.key = some text → AesKey.ofBase64 text = .ok key →
        s.cipher = .ok (.aes key) := by
  refine ⟨fun text key => AesKey.ofBase64_eq_ok_iff, fun text hnone => ?_, fun key => ?_,
    fun s hoff => ⟨_, cipher_of_disabled hoff, rfl⟩,
    fun s hon => ⟨exists_cipher_error_iff hon, fun text key => cipher_of_ok hon⟩⟩
  · cases hread : AesKey.ofBase64 text with
    | ok key => exact absurd (AesKey.ofBase64_eq_ok_iff.1 hread) (hnone key)
    | error e =>
      obtain ⟨reason, rfl⟩ := AesKey.exists_configuration_of_error hread
      exact ⟨reason, rfl⟩
  · have htext := key.trim_toBase64
    refine ⟨AesKey.ofBase64_eq_ok_iff.2 htext, htext, fun text htrim h => ?_⟩
    rw [← htrim]
    exact AesKey.ofBase64_eq_ok_iff.1 h

end EncryptionSettings

end SignOn
