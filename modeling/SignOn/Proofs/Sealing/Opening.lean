import SignOn.Proofs.Sealing.RoundTrip
import SignOn.Proofs.Wire.Spelling

/-!
# Opening any payload

A sealed ticket may hold any bytes whatsoever. It is opened in two steps, and each of them fails in
its own way: the cipher does not decrypt the payload, or the decrypted bytes do not begin with a
ticket that may be sealed. What is opened in the end is a ticket that could have been sealed, even if
the bytes are none that sealing writes: a map out of order or with repeated keys, a relaxed date, or
bytes left over are gone once the ticket is there.

## Main definitions

* `Cipher.FailsWithCrypto` - decryption fails in the way that ciphers fail

## Main results

* `Sealing.opened_iff_begins`, `Sealing.opened_refuses_iff` - the second step, where the first one
  succeeded
* `Sealing.exists_canonical_of_opened` - what is opened could have been sealed
* `Sealing.decode_payload` - what becomes of any payload
-/

namespace SignOn

/-- Decryption fails with no other errors than those of ciphers. -/
def Cipher.FailsWithCrypto (c : Cipher) : Prop :=
  ∀ payload e, c.decrypt payload = .error e → ∃ reason, e = .crypto reason

theorem Cipher.failsWithCrypto_masking (mask : UInt8) (enabled : Bool) :
    (masking mask enabled).FailsWithCrypto :=
  fun _ _ h => by cases h

namespace Sealing

open Wire (Spelling)

variable {s : Sealing} {c : Cipher} {t : Ticket} {bytes payload : List UInt8} {e : SealedTicket}

/-! ### The two steps -/

theorem opened_of_decrypt_error {e' : RegistryError} (h : c.decrypt e.payload = .error e') :
    opened c e = .error e' := by
  unfold opened
  rw [h]

/-- After decryption there is only one way left to fail. -/
theorem opened_of_decrypt_ok (h : c.decrypt e.payload = .ok bytes) :
    (∃ t, opened c e = .ok t) ∨ ∃ reason, opened c e = .error (.serialization reason) := by
  unfold opened
  simp only [h]
  cases Layout.ticket.deserialize bytes with
  | error fault => exact .inr ⟨_, rfl⟩
  | ok t =>
    cases t with
    | sealed inner => exact .inr ⟨_, rfl⟩
    | _ => exact .inl ⟨_, rfl⟩

/-- What is opened is what the decrypted bytes begin with. -/
theorem opened_iff_begins (h : c.decrypt e.payload = .ok bytes) :
    opened c e = .ok t ↔ Spelling.ticket.Begins bytes t ∧ t.isSealed = false := by
  simp only [opened_eq_ok_iff, h, Except.ok.injEq, exists_eq_left',
    Wire.reads_ticket.deserialize_eq_ok_iff]

/-- Bytes begin with no more than one ticket. -/
theorem eq_of_begins {t' : Ticket} (ht : Spelling.ticket.Begins bytes t)
    (ht' : Spelling.ticket.Begins bytes t') : t = t' := by
  rw [← Wire.reads_ticket.deserialize_eq_ok_iff] at ht ht'
  exact Except.ok.inj (ht.symm.trans ht')

/-- What is refused begins with no ticket, or with a sealed one. -/
theorem opened_refuses_iff (h : c.decrypt e.payload = .ok bytes) :
    (∃ reason, opened c e = .error (.serialization reason)) ↔
      (¬∃ t, Spelling.ticket.Begins bytes t) ∨
        ∃ t, Spelling.ticket.Begins bytes t ∧ t.isSealed = true := by
  constructor
  · rintro ⟨reason, hrefused⟩
    by_cases hbegins : ∃ t, Spelling.ticket.Begins bytes t
    · -- A ticket that is not sealed would have been opened.
      obtain ⟨t, ht⟩ := hbegins
      refine .inr ⟨t, ht, ?_⟩
      by_contra hsealed
      have hopened := (opened_iff_begins h).2 ⟨ht, Bool.not_eq_true _ ▸ hsealed⟩
      rw [hrefused] at hopened
      cases hopened
    · exact .inl hbegins
  · intro hbegins
    refine (opened_of_decrypt_ok h).resolve_left ?_
    rintro ⟨t, ht⟩
    obtain ⟨ht, hsealed⟩ := (opened_iff_begins h).1 ht
    rcases hbegins with hnone | ⟨t', ht', hsealed'⟩
    · exact hnone ⟨t, ht⟩
    · rw [eq_of_begins ht ht', hsealed'] at hsealed
      cases hsealed

/-- What is opened can be serialized, and is opened again from what was serialized. -/
theorem exists_canonical_of_opened (h : opened c e = .ok t) :
    ∃ canonical, Layout.ticket.serialize t = .ok canonical ∧
      Layout.ticket.deserialize canonical = .ok t ∧
      ∀ id payload, c.decrypt payload = .ok canonical → opened c ⟨id, payload⟩ = .ok t := by
  obtain ⟨bytes, -, hread, hsealed⟩ := opened_eq_ok_iff.1 h
  -- The bytes may be misspelled, but what the reader makes of them always fits the format.
  obtain ⟨hfits, hdates⟩ := Layout.rereads_ticket.of_deserialize hread
  have hbytes : Layout.ticket.serialize t = .ok (Layout.ticket.write t) := if_pos hfits
  refine ⟨_, hbytes, ?_, fun id payload hpayload => ?_⟩
  · rw [Layout.rereads_ticket.deserialize_serialize hbytes, hdates]
  · rw [opened_eq_ok hpayload hsealed hbytes id, hdates]

/-! ### Any payload -/

/-- What becomes of any payload, whatever bytes it has. With a cipher that fails only in the way of
ciphers, it is that failure exactly if the payload is not decrypted. Otherwise it is a failure of the
stored format exactly if the decrypted bytes do not begin with a spelling of a ticket, or begin with
one of a sealed ticket. Otherwise it is the ticket that they begin with. This is never a sealed one,
and it is canonical: however it was spelled, it can be serialized, and it is read back from what is
serialized, also out of a payload that is decrypted to that. -/
theorem decode_payload (hactive : s.active? = some c) (hcrypto : c.FailsWithCrypto)
    (e : SealedTicket) :
    ((∃ reason, s.decode (.sealed e) = .error (.crypto reason)) ↔
      ∃ e', c.decrypt e.payload = .error e') ∧
    (∀ bytes, c.decrypt e.payload = .ok bytes →
      ((∃ reason, s.decode (.sealed e) = .error (.serialization reason)) ↔
        (¬∃ t, Spelling.ticket.Begins bytes t) ∨
          ∃ t, Spelling.ticket.Begins bytes t ∧ t.isSealed = true) ∧
      ∀ t, s.decode (.sealed e) = .ok t ↔
        Spelling.ticket.Begins bytes t ∧ t.isSealed = false) ∧
    ∀ t, s.decode (.sealed e) = .ok t → t.isSealed = false ∧
      ∃ canonical, Layout.ticket.serialize t = .ok canonical ∧
        Layout.ticket.deserialize canonical = .ok t ∧
        ∀ id payload, c.decrypt payload = .ok canonical →
          s.decode (.sealed ⟨id, payload⟩) = .ok t := by
  simp only [decode_sealed hactive]
  refine ⟨?_, fun bytes hbytes => ?_, fun t ht => ?_⟩
  · constructor
    · rintro ⟨reason, hfails⟩
      cases hdecrypt : c.decrypt e.payload with
      | error e' => exact ⟨e', rfl⟩
      | ok bytes =>
        -- After decryption no failure is one of the cipher.
        rcases opened_of_decrypt_ok hdecrypt with ⟨t, ht⟩ | ⟨reason', hrefused⟩
        · rw [ht] at hfails
          cases hfails
        · rw [hrefused] at hfails
          cases hfails
    · rintro ⟨e', hdecrypt⟩
      obtain ⟨reason, rfl⟩ := hcrypto _ _ hdecrypt
      exact ⟨reason, opened_of_decrypt_error hdecrypt⟩
  · exact ⟨opened_refuses_iff hbytes, fun t => opened_iff_begins hbytes⟩
  · obtain ⟨-, -, -, hsealed⟩ := opened_eq_ok_iff.1 ht
    exact ⟨hsealed, exists_canonical_of_opened ht⟩

/-- A session that is not spelled as it would be written: its dates are relaxed, one of them in a
leap second and one with an offset; its list of services is out of order and repeats a key; and a
byte is left over. -/
theorem decode_payload_misspelled :
    let s := withCipher (.masking 90 true)
    let created : Instant :=
      ⟨⟨2023, 12, 31, by decide⟩, 82800, 500000000, by decide, by decide⟩
    let leap : Instant :=
      ⟨⟨2023, 12, 31, by decide⟩, 86399, 1500000000, by decide, by decide⟩
    let texts (ts : List String) := ts.flatMap Layout.text.write
    let empty := Layout.writeLength 0
    let bytes := Layout.littleEndian 4 0 ++ texts ["TGT-1", " 2024-1-1 1:00:00.5 +02:00"] ++
      Layout.littleEndian 4 0 ++ texts ["alice"] ++ empty ++ empty ++ empty ++ empty ++ empty ++
      texts ["+2023-12-31t23:59:60.5utc"] ++
      Layout.writeLength 3 ++ texts ["ST-2", "b", "ST-1", "a", "ST-2", "c"] ++ empty ++ [255]
    let t : Ticket := .session ⟨"TGT-1", created, .never,
      ⟨⟨"alice", .empty⟩, [], .empty, .empty, .empty, leap⟩,
      .ofList [("ST-1", ⟨"a"⟩), ("ST-2", ⟨"c"⟩)], .empty⟩
    s.decode (.sealed ⟨"key", bytes.map (· ^^^ 90)⟩) = .ok t ∧
      ∃ canonical, Layout.ticket.serialize t = .ok canonical ∧
        s.decode (.sealed ⟨"key", canonical.map (· ^^^ 90)⟩) = .ok t := by
  intro s created leap texts empty bytes t
  have hdecrypt : ∀ plain : List UInt8,
      (Cipher.masking 90 true).decrypt (plain.map (· ^^^ 90)) = .ok plain :=
    fun plain => Cipher.roundTrips_masking 90 true [] plain _ rfl rfl
  have hbegins : Spelling.ticket.Begins bytes t := by
    apply Wire.reads_ticket.deserialize_eq_ok_iff.1
    apply toOption_eq_some_iff.1
    decide +kernel
  obtain ⟨-, hopened, hcanonical⟩ := decode_payload (s := s) (c := .masking 90 true) rfl
    (Cipher.failsWithCrypto_masking 90 true) ⟨"key", bytes.map (· ^^^ 90)⟩
  have ht := ((hopened bytes (hdecrypt bytes)).2 t).2 ⟨hbegins, rfl⟩
  obtain ⟨-, canonical, hserialize, -, hagain⟩ := hcanonical t ht
  exact ⟨ht, canonical, hserialize, hagain _ _ (hdecrypt canonical)⟩

end Sealing

end SignOn
