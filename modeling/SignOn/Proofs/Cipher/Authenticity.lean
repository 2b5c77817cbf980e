import SignOn.Cipher.AesGcm

/-!
# What is decrypted was encrypted

Galois counter mode accepts a text with its tag only if the tag is that of the text. Combining with
the keystream is undone by combining again, so an accepted text is the encryption of what comes out
of it. With the nonce in front, the cipher for tickets at rest decrypts exactly what it produces.

## Main results

* `Gcm.decrypt?_eq_some_iff` - Galois counter mode accepts what it encrypts, and nothing else
* `Cipher.decrypt_aes_eq_ok_iff` - so does the cipher, with the nonce in front
* `Cipher.aes_decrypts_only_encryptions` - what is accepted, how long it is, and what is refused
-/

namespace SignOn

/-! ### Galois counter mode -/

namespace Gcm

open Aes (Block)

variable {encryptBlock : Block → Block} {nonce text plain : List UInt8}

@[simp] theorem length_encrypt (encryptBlock : Block → Block) (nonce plain : List UInt8) :
    (encrypt encryptBlock nonce plain).length = plain.length + 16 := by
  simp [encrypt]

/-- What is accepted is the encryption of what comes out of it. -/
theorem decrypt?_eq_some_iff : decrypt? encryptBlock nonce text = some plain ↔
    plain.length ≤ maxLength ∧ text = encrypt encryptBlock nonce plain := by
  constructor
  · intro h
    simp only [decrypt?] at h
    split at h
    next haccepted =>
      obtain ⟨-, hfits, htag⟩ := haccepted
      obtain rfl := Option.some.inj h
      refine ⟨by rwa [length_combine], ?_⟩
      -- The text in front of the tag is combined twice, and the tag is the one that was compared.
      rw [encrypt, combine_combine, ← htag, List.take_append_drop]
    next => cases h
  · rintro ⟨hfits, rfl⟩
    exact decrypt?_encrypt hfits

/-- Behind a text stands its own tag and no other one. -/
theorem eq_tag_of_encrypt_eq {body last : List UInt8} (hlast : last.length = 16)
    (h : encrypt encryptBlock nonce plain = body ++ last) :
    last = tag encryptBlock nonce body := by
  obtain ⟨rfl, rfl⟩ := List.append_inj' h ((length_tag _ _ _).trans hlast.symm)
  rfl

end Gcm

/-! ### The cipher for tickets at rest -/

/-- The encryption of blocks with a key. -/
def AesKey.encryptBlock (key : AesKey) : Aes.Block → Aes.Block :=
  Aes.encryptBlock (Aes.expandKey key.bytes)

namespace Cipher

variable {key : AesKey} {nonce text plain : List UInt8}

/-- An encryption is the nonce, followed by the text and its tag. -/
theorem encrypt_aes_eq_ok_iff : (aes key).encrypt nonce plain = .ok text ↔
    plain.length ≤ Gcm.maxLength ∧ nonce ++ Gcm.encrypt key.encryptBlock nonce plain = text := by
  simp only [aes]
  split
  next hfits => exact ⟨fun h => ⟨hfits, Except.ok.inj h⟩, fun h => congrArg Except.ok h.2⟩
  next hfits => exact iff_of_false (fun h => by cases h) fun h => hfits h.1

theorem length_of_encrypt_aes (h : (aes key).encrypt nonce plain = .ok text) :
    text.length = nonce.length + (plain.length + 16) := by
  rw [← (encrypt_aes_eq_ok_iff.1 h).2, List.length_append, Gcm.length_encrypt]

/-- A text is decrypted exactly if it is what the encryption under its own nonce produces. -/
theorem decrypt_aes_eq_ok_iff : (aes key).decrypt text = .ok plain ↔
    (aes key).encrypt (text.take aesNonceLength) plain = .ok text := by
  by_cases hshort : text.length < aesNonceLength
  · -- A text that is shorter than a nonce is refused, and no encryption is as short as that.
    have hrefused : (aes key).decrypt text ≠ .ok plain := by simp [aes, hshort]
    refine iff_of_false hrefused fun h => ?_
    have hlength := length_of_encrypt_aes h
    rw [List.length_take] at hlength
    omega
  · have hopens : (aes key).decrypt text = .ok plain ↔ Gcm.decrypt? key.encryptBlock
        (text.take aesNonceLength) (text.drop aesNonceLength) = some plain := by
      simp only [aes, hshort, if_false, AesKey.encryptBlock]
      split <;> simp_all
    rw [hopens, Gcm.decrypt?_eq_some_iff, encrypt_aes_eq_ok_iff]
    refine and_congr_right fun _ => ⟨fun h => ?_, fun h => ?_⟩
    · rw [← h, List.take_append_drop]
    · -- Both texts start with the same nonce, so the rests are the same.
      exact List.append_cancel_left ((List.take_append_drop _ _).trans h.symm)

/-- What no encryption produces is refused, for a reason that lies in the cipher. -/
theorem exists_crypto_of_decrypt_aes
    (h : ¬ ∃ plain, (aes key).encrypt (text.take aesNonceLength) plain = .ok text) :
    ∃ reason, (aes key).decrypt text = .error (.crypto reason) := by
  cases hdecrypt : (aes key).decrypt text with
  | ok plain => exact absurd ⟨plain, decrypt_aes_eq_ok_iff.1 hdecrypt⟩ h
  | error e =>
    simp only [aes] at hdecrypt
    split at hdecrypt
    next => exact ⟨_, hdecrypt.symm⟩
    next =>
      split at hdecrypt
      next => cases hdecrypt
      next => exact ⟨_, hdecrypt.symm⟩

/-- With other bytes in the place of its tag, an encryption is refused. -/
theorem exists_crypto_of_other_tag {last : List UInt8} (hnonce : nonce.length = aesNonceLength)
    (h : (aes key).encrypt nonce plain = .ok text) (hlast : last.length = 16)
    (hother : last ≠ text.drop (text.length - 16)) :
    ∃ reason, (aes key).decrypt (text.take (text.length - 16) ++ last) =
      .error (.crypto reason) := by
  obtain ⟨-, rfl⟩ := encrypt_aes_eq_ok_iff.1 h
  rw [Gcm.encrypt, ← List.append_assoc] at hother ⊢
  -- In front of the tag stand the nonce and the text that the tag is computed over.
  generalize Gcm.combine key.encryptBlock (Gcm.firstBlock nonce) plain = body at hother ⊢
  have hfront : (nonce ++ body ++ Gcm.tag key.encryptBlock nonce body).length - 16 =
      (nonce ++ body).length := by
    rw [List.length_append, Gcm.length_tag, Nat.add_sub_cancel]
  rw [hfront, List.drop_left] at hother
  rw [hfront, List.take_left]
  apply exists_crypto_of_decrypt_aes
  rintro ⟨plain', h'⟩
  have htake : (nonce ++ body ++ last).take aesNonceLength = nonce := by
    rw [List.append_assoc, List.take_left' hnonce]
  rw [htake, encrypt_aes_eq_ok_iff, List.append_assoc] at h'
  exact hother (Gcm.eq_tag_of_encrypt_eq hlast (List.append_cancel_left h'.2))

/-- The cipher decrypts a text to some bytes exactly if encrypting these bytes under the first twelve
bytes of the text produces the text, and refuses every other text. So whatever the nonce, bytes of
an admitted length are encrypted to a text that is twenty-eight bytes longer and decrypted again;
with any other sixteen bytes in the place of its tag the text is refused, and so is every text of
less than twenty-eight bytes. -/
theorem aes_decrypts_only_encryptions (key : AesKey) :
    (∀ text plain, (aes key).decrypt text = .ok plain ↔
      (aes key).encrypt (text.take aesNonceLength) plain = .ok text) ∧
    (∀ text, (¬ ∃ plain, (aes key).encrypt (text.take aesNonceLength) plain = .ok text) →
      ∃ reason, (aes key).decrypt text = .error (.crypto reason)) ∧
    (∀ nonce plain, nonce.length = aesNonceLength → plain.length ≤ Gcm.maxLength →
      ∃ text, (aes key).encrypt nonce plain = .ok text ∧ text.length = plain.length + 28 ∧
        (aes key).decrypt text = .ok plain ∧
        ∀ last : List UInt8, last.length = 16 → last ≠ text.drop (text.length - 16) →
          ∃ reason, (aes key).decrypt (text.take (text.length - 16) ++ last) =
            .error (.crypto reason)) ∧
    ∀ text, text.length < 28 → ∃ reason, (aes key).decrypt text = .error (.crypto reason) := by
  refine ⟨fun _ _ => decrypt_aes_eq_ok_iff, fun _ => exists_crypto_of_decrypt_aes, ?_, ?_⟩
  · intro nonce plain hnonce hfits
    have hencrypted : (aes key).encrypt nonce plain = .ok _ := encrypt_aes_eq_ok_iff.2 ⟨hfits, rfl⟩
    refine ⟨_, hencrypted, ?_, roundTrips_aes key nonce plain _ hnonce hencrypted, ?_⟩
    · rw [length_of_encrypt_aes hencrypted, hnonce, aesNonceLength]
      omega
    · intro last hlast hother
      exact exists_crypto_of_other_tag hnonce hencrypted hlast hother
  · intro text hshort
    apply exists_crypto_of_decrypt_aes
    rintro ⟨plain, hencrypted⟩
    have hlength := length_of_encrypt_aes hencrypted
    rw [List.length_take, aesNonceLength] at hlength
    omega

/-- No bytes at all, under the key and the nonce of zeros: the encryption is the nonce and a tag, and
with one bit of the tag changed it is refused. -/
theorem aes_decrypts_only_encryptions_zeros :
    let key : AesKey := ⟨List.replicate 32 0, by decide⟩
    let nonce : List UInt8 := List.replicate 12 0
    let tag : List UInt8 := [0x53, 0x0F, 0x8A, 0xFB, 0xC7, 0x45, 0x36, 0xB9, 0xA9, 0x63, 0xB4, 0xF1,
      0xC4, 0xCB, 0x73, 0x8B]
    (aes key).encrypt nonce [] = .ok (nonce ++ tag) ∧ (aes key).decrypt (nonce ++ tag) = .ok [] ∧
      ∃ reason, (aes key).decrypt (nonce ++ 0x52 :: tag.tail) = .error (.crypto reason) := by
  intro key nonce tag
  obtain ⟨hexact, -, hadmitted, -⟩ := aes_decrypts_only_encryptions key
  have hencrypted : (aes key).encrypt nonce [] = .ok (nonce ++ tag) :=
    encrypt_aes_eq_ok_iff.2 ⟨by decide, by decide +kernel⟩
  refine ⟨hencrypted, (hexact _ _).2 hencrypted, ?_⟩
  obtain ⟨text, htext, -, -, hother⟩ := hadmitted nonce [] rfl (by decide)
  obtain rfl := Except.ok.inj (hencrypted.symm.trans htext)
  have hfront : (nonce ++ tag).take ((nonce ++ tag).length - 16) = nonce := by decide +kernel
  have hrefused := hother (0x52 :: tag.tail) rfl (by decide +kernel)
  rwa [hfront] at hrefused

end Cipher

end SignOn
