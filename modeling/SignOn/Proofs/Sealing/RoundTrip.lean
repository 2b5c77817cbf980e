import SignOn.Proofs.Wire.Tickets
import SignOn.Registry.Sealing

/-!
# What is sealed is opened again

A sealing is reliable if its cipher, where one is applied, encrypts everything and decrypts what it
encrypted. Then every ticket that is no sealed ticket itself can be put down, and what was put down
stands under the storage key of the ticket and is opened to the same ticket, with its dates as they
are read back.

## Main definitions

* `Sealing.redate` - a date as it comes back from where it was put down
* `Sealing.Reliable` - the cipher encrypts everything and decrypts what it encrypted
* `Sealing.Opens` - the cipher decrypts what it encrypted, but may refuse to encrypt
* `Sealing.CanHold` - the ticket has a stored form, where one is needed
* `Sealing.Encodes` - the ticket is put down, whatever random bytes are drawn

## Main results

* `Sealing.Reliable.exists_encode` - a reliable sealing puts down every ticket that it can hold
* `Sealing.mapDates_of_decode` - what was opened has its dates as they are read back
* `Sealing.encode_then_decode` - decoding undoes encoding but for leap seconds within a minute
-/

namespace SignOn.Sealing

variable {s : Sealing} {c : Cipher} {t stored : Ticket} {nonce bytes payload : List UInt8}

/-! ### Active sealings -/

theorem isActive_iff : s.isActive = true ↔ ∃ c, s.active? = some c := by
  rw [isActive, Option.isSome_iff_exists]

theorem isActive_of_active? (h : s.active? = some c) : s.isActive = true := isActive_iff.2 ⟨c, h⟩

theorem active?_eq_none (h : s.isActive = false) : s.active? = Option.none := by
  rwa [isActive, Option.isSome_eq_false_iff, Option.isNone_iff_eq_none] at h

/-- Without an active cipher tickets are stored as they are. -/
theorem encode_of_inactive (h : s.isActive = false) (nonce : List UInt8) (t : Ticket) :
    s.encode nonce t = .ok t := by
  rw [encode, active?_eq_none h]

theorem decode_of_inactive (h : s.isActive = false) (t : Ticket) : s.decode t = .ok t := by
  unfold decode
  rw [active?_eq_none h]

/-- A ticket that is not sealed is what it is. -/
theorem decode_of_not_isSealed (s : Sealing) (h : t.isSealed = false) : s.decode t = .ok t := by
  unfold decode
  split
  next => cases h
  next => rfl

theorem decode_sealed (h : s.active? = some c) (sealedTicket : SealedTicket) :
    s.decode (.sealed sealedTicket) = opened c sealedTicket := by
  unfold decode
  rw [h]

/-- With an active cipher, a ticket is put down as its stored format, encrypted. -/
theorem encode_eq_ok_iff (hactive : s.active? = some c) (ht : t.isSealed = false) :
    s.encode nonce t = .ok stored ↔ ∃ bytes payload, Layout.ticket.serialize t = .ok bytes ∧
      c.encrypt nonce bytes = .ok payload ∧ stored = .sealed ⟨s.key t.id, payload⟩ := by
  simp only [encode, hactive, ht, Bool.false_eq_true, if_false]
  cases hbytes : Layout.ticket.serialize t with
  | error fault => simp
  | ok bytes =>
    cases hpayload : c.encrypt nonce bytes with
    | error e => simp [hpayload]
    | ok payload => simp [hpayload, eq_comm]

/-- What a sealed ticket is opened to is in its payload. -/
theorem opened_eq_ok_iff {e : SealedTicket} : opened c e = .ok t ↔
    ∃ bytes, c.decrypt e.payload = .ok bytes ∧ Layout.ticket.deserialize bytes = .ok t ∧
      t.isSealed = false := by
  unfold opened
  cases c.decrypt e.payload with
  | error _ => simp
  | ok bytes =>
    cases hread : Layout.ticket.deserialize bytes with
    | error _ => simp [hread]
    | ok read => cases read <;> cases t <;> simp [hread, Ticket.isSealed]

/-- What was encrypted is opened to the ticket that was serialized, with its dates as they are read
back. -/
theorem opened_eq_ok (hc : c.decrypt payload = .ok bytes) (ht : t.isSealed = false)
    (hbytes : Layout.ticket.serialize t = .ok bytes) (id : String) :
    opened c ⟨id, payload⟩ = .ok (t.mapDates .reread) :=
  opened_eq_ok_iff.2 ⟨bytes, hc, Layout.rereads_ticket.deserialize_serialize hbytes,
    (Ticket.isSealed_mapDates _ t).trans ht⟩

/-- What is stored for a ticket is opened to the ticket with its dates as they are read back. -/
theorem decode_of_encode (hactive : s.active? = some c) (hc : c.RoundTrips)
    (ht : t.isSealed = false) (hnonce : nonce.length = c.nonceLength)
    (hstored : s.encode nonce t = .ok stored) : s.decode stored = .ok (t.mapDates .reread) := by
  obtain ⟨bytes, payload, hbytes, hpayload, rfl⟩ := (encode_eq_ok_iff hactive ht).1 hstored
  rw [decode_sealed hactive]
  exact opened_eq_ok (hc nonce bytes payload hnonce hpayload) ht hbytes _

/-! ### Dates at rest -/

/-- A date as it comes back from where it was put down: with an active cipher, as it is read
back. -/
def redate (s : Sealing) (i : Instant) : Instant := if s.isActive then i.reread else i

theorem redate_of_active (h : s.isActive = true) : s.redate = Instant.reread := by
  funext i
  rw [redate, if_pos h]

theorem redate_of_inactive (h : s.isActive = false) (i : Instant) : s.redate i = i := by
  rw [redate, h]
  rfl

theorem redate_of_onMinute (s : Sealing) {i : Instant} (h : i.OnMinute) : s.redate i = i := by
  rw [redate, Instant.reread_of_onMinute h, ite_self]

theorem redate_redate (s : Sealing) (i : Instant) : s.redate (s.redate i) = s.redate i := by
  cases hactive : s.isActive with
  | false => exact redate_of_inactive hactive _
  | true =>
    rw [redate_of_active hactive]
    exact Instant.reread_of_onMinute i.onMinute_reread

theorem mapDates_mapDates_redate (s : Sealing) (body : Session) :
    (body.mapDates s.redate).mapDates s.redate = body.mapDates s.redate :=
  Session.mapDates_eq_self_iff.2 ⟨s.redate_redate _, s.redate_redate _⟩

/-- What was opened has its dates as they are read back. -/
theorem mapDates_of_decode (h : s.decode stored = .ok t)
    (hstored : s.isActive = true → stored.isSealed = true) : t.mapDates s.redate = t := by
  cases hactive : s.isActive with
  | false => exact Ticket.mapDates_of_fixed (redate_of_inactive hactive) t
  | true =>
    obtain ⟨c, hc⟩ := isActive_iff.1 hactive
    cases stored with
    | sealed e =>
      rw [decode_sealed hc] at h
      obtain ⟨bytes, -, hread, -⟩ := opened_eq_ok_iff.1 h
      rw [redate_of_active hactive]
      exact (Layout.rereads_ticket.of_deserialize hread).2
    | _ => cases hstored hactive

/-! ### Reliable sealings -/

/-- Where a cipher is applied, it encrypts everything and decrypts what it encrypted. -/
def Reliable (s : Sealing) : Prop := ∀ c, s.active? = some c → c.RoundTrips ∧ c.AlwaysEncrypts

/-- With an active cipher, the lengths in a ticket have to fit into sixty-four bits. In the memory
of a machine they always do. -/
def CanHold (s : Sealing) (t : Ticket) : Prop := s.isActive = true → Layout.ticket.fits t = true

/-- Where a cipher is applied, it decrypts what it encrypted. It may refuse to encrypt. -/
def Opens (s : Sealing) : Prop := ∀ c, s.active? = some c → c.RoundTrips

/-- The ticket is put down, whatever random bytes are drawn for it. -/
def Encodes (s : Sealing) (t : Ticket) : Prop :=
  ∀ nonce : List UInt8, nonce.length = s.nonceLength t → ∃ stored, s.encode nonce t = .ok stored

theorem Reliable.opens (hs : s.Reliable) : s.Opens := fun c hc => (hs c hc).1

theorem reliable_of_inactive (h : s.isActive = false) : s.Reliable := by
  intro c hc
  rw [isActive_of_active? hc] at h
  cases h

theorem reliable_masking (mask : UInt8) (enabled : Bool) :
    (withCipher (.masking mask enabled)).Reliable := by
  intro c hc
  cases enabled with
  | false => cases hc
  | true =>
    obtain rfl := Option.some.inj hc
    exact ⟨Cipher.roundTrips_masking mask true, Cipher.alwaysEncrypts_masking mask true⟩

theorem canHold_of_inactive (h : s.isActive = false) (t : Ticket) : s.CanHold t := by
  intro hactive
  rw [h] at hactive
  cases hactive

theorem opens_of_inactive (h : s.isActive = false) : s.Opens := (reliable_of_inactive h).opens

theorem nonceLength_of_inactive (h : s.isActive = false) (t : Ticket) : s.nonceLength t = 0 := by
  rw [nonceLength, active?_eq_none h]
  exact ite_self 0

theorem nonceLength_eq (hactive : s.active? = some c) (ht : t.isSealed = false) :
    s.nonceLength t = c.nonceLength := by
  simp [nonceLength, ht, hactive]

/-- What was put down is opened to the ticket with its dates as they come back, and has the storage
key of the ticket. Only an active sealing refuses sealed tickets. -/
theorem Opens.of_encode (hs : s.Opens) (ht : s.isActive = true → t.isSealed = false)
    (hnonce : nonce.length = s.nonceLength t) (h : s.encode nonce t = .ok stored) :
    s.decode stored = .ok (t.mapDates s.redate) ∧ stored.id = s.key t.id ∧
      (stored.isSealed = false → s.CanHold stored) := by
  cases hactive : s.isActive with
  | false =>
    rw [encode_of_inactive hactive] at h
    obtain rfl := Except.ok.inj h
    rw [Ticket.mapDates_of_fixed (redate_of_inactive hactive)]
    exact ⟨decode_of_inactive hactive t, (key_of_inactive hactive t.id).symm,
      fun _ => canHold_of_inactive hactive t⟩
  | true =>
    obtain ⟨c, hc⟩ := isActive_iff.1 hactive
    rw [nonceLength_eq hc (ht hactive)] at hnonce
    have hdecode := decode_of_encode hc (hs c hc) (ht hactive) hnonce h
    obtain ⟨-, payload, -, -, rfl⟩ := (encode_eq_ok_iff hc (ht hactive)).1 h
    rw [redate_of_active hactive]
    exact ⟨hdecode, rfl, fun hsealed => by cases hsealed⟩

/-- A reliable sealing puts down every ticket that it can hold, under the storage key of the ticket,
and opens what it put down. -/
theorem Reliable.exists_encode (hs : s.Reliable) (ht : t.isSealed = false) (hhold : s.CanHold t)
    (nonce : List UInt8) (hnonce : nonce.length = s.nonceLength t) :
    ∃ stored, s.encode nonce t = .ok stored ∧ s.decode stored = .ok (t.mapDates s.redate) ∧
      stored.id = s.key t.id ∧ stored.isSealed = s.isActive := by
  cases hactive : s.isActive with
  | false =>
    rw [Ticket.mapDates_of_fixed (redate_of_inactive hactive)]
    exact ⟨t, encode_of_inactive hactive nonce t, decode_of_inactive hactive t,
      (key_of_inactive hactive t.id).symm, ht⟩
  | true =>
    obtain ⟨c, hc⟩ := isActive_iff.1 hactive
    obtain ⟨hround, halways⟩ := hs c hc
    -- The ticket fits, so it is serialized; then the cipher encrypts whatever it is given.
    rw [nonceLength_eq hc ht] at hnonce
    have hbytes : Layout.ticket.serialize t = .ok (Layout.ticket.write t) :=
      if_pos (hhold hactive)
    obtain ⟨payload, hpayload⟩ := halways nonce (Layout.ticket.write t) hnonce
    have hencode : s.encode nonce t = .ok (.sealed ⟨s.key t.id, payload⟩) :=
      (encode_eq_ok_iff hc ht).2 ⟨_, payload, hbytes, hpayload, rfl⟩
    rw [redate_of_active hactive]
    exact ⟨_, hencode, decode_of_encode hc hround ht hnonce hencode, rfl, rfl⟩

/-- Without an active cipher it puts down any ticket, as it is. -/
theorem Reliable.exists_encode_of_canHold (hs : s.Reliable)
    (ht : s.isActive = true → t.isSealed = false) (hhold : s.CanHold t) (nonce : List UInt8)
    (hnonce : nonce.length = s.nonceLength t) : ∃ stored, s.encode nonce t = .ok stored := by
  cases hactive : s.isActive with
  | false => exact ⟨t, encode_of_inactive hactive nonce t⟩
  | true =>
    obtain ⟨stored, hstored, -⟩ := hs.exists_encode (ht hactive) hhold nonce hnonce
    exact ⟨stored, hstored⟩

theorem Reliable.encodes (hs : s.Reliable) (ht : s.isActive = true → t.isSealed = false)
    (hhold : s.CanHold t) : s.Encodes t :=
  fun nonce hnonce => hs.exists_encode_of_canHold ht hhold nonce hnonce

/-! ### The round trip -/

/-- Decoding undoes encoding but for leap seconds within a minute. What is stored for a ticket is a
sealed ticket under the storage key of its identifier; it is opened to the ticket with its dates as
they are read back, and to exactly the ticket if and only if none of its dates is a leap second
within a minute; and it is not sealed a second time. -/
theorem encode_then_decode (hactive : s.active? = some c) (hc : c.RoundTrips)
    (ht : t.isSealed = false) (hnonce : nonce.length = c.nonceLength)
    (hstored : s.encode nonce t = .ok stored) :
    (∃ payload, stored = .sealed ⟨s.key t.id, payload⟩) ∧
      s.decode stored = .ok (t.mapDates .reread) ∧
      (s.decode stored = .ok t ↔ ∀ i ∈ t.dates, i.OnMinute) ∧
      ∀ nonce', s.encode nonce' stored = .ok stored := by
  have hdecode := decode_of_encode hactive hc ht hnonce hstored
  obtain ⟨-, payload, -, -, rfl⟩ := (encode_eq_ok_iff hactive ht).1 hstored
  refine ⟨⟨payload, rfl⟩, hdecode, ?_, fun nonce' => encode_of_isSealed s nonce' rfl⟩
  rw [hdecode, Except.ok.injEq, Ticket.mapDates_reread_eq_self_iff]

/-- A proxy-granting ticket with a negative lifetime that was created in a leap second after the
year 9999, and whose maps and lists are not empty. -/
theorem encode_then_decode_leapSecond :
    let s := withCipher (.masking 90 true)
    let created : Instant :=
      ⟨⟨10000, 12, 31, by decide⟩, 86399, 1500000000, by decide, by decide⟩
    let authentication : Authentication :=
      ⟨⟨"é", .ofList [("mail", .multi ["a", ""]), ("cn", .single "x")]⟩, [⟨"é", "token"⟩],
        .ofList [("h", ⟨"h", ⟨"é", "token"⟩, Option.none, ["weak"]⟩)],
        .ofList [("g", "denied")], .empty, created⟩
    let t : Ticket := .proxy ⟨⟨"PGT-1", created, .after (-1), authentication,
      .ofList [("ST-2", ⟨"b"⟩), ("ST-1", ⟨"a"⟩)], .ofList [("PGT-2", ⟨"c"⟩)]⟩, "TGT-1", ⟨"p"⟩⟩
    ∃ stored, s.encode [] t = .ok stored ∧ (∃ payload, stored = .sealed ⟨s.key t.id, payload⟩) ∧
      s.decode stored = .ok t ∧ ∀ nonce', s.encode nonce' stored = .ok stored := by
  intro s created authentication t
  have hactive : s.active? = some (.masking 90 true) := rfl
  have hround : (Cipher.masking 90 true).RoundTrips := Cipher.roundTrips_masking 90 true
  have hhold : s.CanHold t := fun _ => by decide
  obtain ⟨stored, hstored, -⟩ := (reliable_masking 90 true).exists_encode (t := t) rfl hhold [] rfl
  obtain ⟨hsealed, -, hopened, hagain⟩ := encode_then_decode hactive hround rfl rfl hstored
  exact ⟨stored, hstored, hsealed, hopened.2 (by decide), hagain⟩

/-- A session that was created in a leap second within a minute. What is stored for it is opened to
the session that was created in the second that follows. -/
theorem decode_of_encode_withinMinute :
    let c : Cipher := .masking 90 true
    let s := withCipher c
    let leap : Instant := ⟨⟨2024, 1, 1, by decide⟩, 86164, 1333333333, by decide, by decide⟩
    let next : Instant := ⟨⟨2024, 1, 1, by decide⟩, 86165, 333333333, by decide, by decide⟩
    let ticket (created : Instant) : Ticket := .session
      ⟨"TGT-1", created, .never, ⟨⟨"alice", .empty⟩, [], .empty, .empty, .empty, next⟩, .empty,
        .empty⟩
    c.RoundTrips ∧ s.active? = some c ∧
      (∃ stored, s.encode [] (ticket leap) = .ok stored ∧ s.decode stored = .ok (ticket next)) ∧
      ticket leap ≠ ticket next := by
  intro c s leap next ticket
  have hactive : s.active? = some c := rfl
  have hround : c.RoundTrips := Cipher.roundTrips_masking 90 true
  have hbytes : Layout.ticket.serialize (ticket leap) = .ok (Layout.ticket.write (ticket leap)) :=
    if_pos (by decide)
  obtain ⟨payload, hpayload⟩ := Cipher.alwaysEncrypts_masking 90 true []
    (Layout.ticket.write (ticket leap)) rfl
  have hencode := (encode_eq_ok_iff (s := s) hactive rfl).2 ⟨_, payload, hbytes, hpayload, rfl⟩
  have hdecode := decode_of_encode hactive hround rfl rfl hencode
  have hread : (ticket leap).mapDates .reread = ticket next := by decide
  rw [hread] at hdecode
  exact ⟨hround, hactive, ⟨_, hencode, hdecode⟩, by decide⟩

end SignOn.Sealing
