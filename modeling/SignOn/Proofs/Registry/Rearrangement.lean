import SignOn.Cipher.AesGcm
import SignOn.Proofs.Registry.Issuing

/-!
# Rearranged stores

A sealed ticket has the storage key of the ticket as its identifier, and in its payload there is the
identifier of the ticket. A payload is opened without a look at the former, so it is opened to the
same ticket wherever it is put. A look-up in a store whose entries were put elsewhere finds the
ticket that came under the storage key, whole, and its identifier tells from where it came.

## Main definitions

* `Ticket.relabel` - a sealed ticket under another identifier
* `MemoryStore.Moved`, `MemoryStore.Rearranges` - the entries of a store, put under other keys

## Main results

* `Sealing.decode_relabel` - a payload is opened to the same ticket under every identifier
* `Sealing.Keyed.resolve_of_moved` - where an entry leads that was put under another key
* `Registry.find_of_rearranges` - what a look-up finds in a rearranged store
-/

namespace SignOn

/-! ### Entries under other keys -/

/-- A sealed ticket under another identifier. Any other ticket has its identifier in what it is, and
stays as it is. -/
def Ticket.relabel (label : String) : Ticket → Ticket
  | .sealed t => .sealed { t with id := label }
  | t => t

theorem Ticket.relabel_id (t : Ticket) : t.relabel t.id = t := by
  cases t <;> rfl

namespace MemoryStore

variable {m m' : MemoryStore} {old key : String} {kept : Ticket}

/-- What is under a key was under another one in the store before, perhaps with another
identifier. -/
def Moved (m : MemoryStore) (old : String) (m' : MemoryStore) (key : String) : Prop :=
  ∃ kept label, m.get? old = some kept ∧ m'.get? key = some (kept.relabel label)

/-- Whatever is in the second store was somewhere in the first one. Entries may be gone, and one
entry may have come under several keys. -/
def Rearranges (m m' : MemoryStore) : Prop :=
  ∀ key stored, m'.get? key = some stored → ∃ old, m.Moved old m' key

theorem rearranges_refl (m : MemoryStore) : m.Rearranges m := by
  intro key stored hget
  exact ⟨key, stored, stored.id, hget, by rw [Ticket.relabel_id, hget]⟩

/-- An entry is put under one more key. -/
theorem Rearranges.put (h : m.Rearranges m') (hold : m.get? old = some kept) (key label : String) :
    m.Rearranges (m'.put key (kept.relabel label)) := by
  intro other stored hget
  rw [get?_put] at hget
  split at hget
  next hother =>
    rw [hother]
    exact ⟨old, kept, label, hold, get?_put_self _ _ _⟩
  next hother =>
    obtain ⟨from', kept', label', hfrom, hmoved⟩ := h other stored hget
    exact ⟨from', kept', label', hfrom, (get?_put_of_ne _ _ hother).trans hmoved⟩

end MemoryStore

/-! ### What is put down -/

/-- The cipher encrypts whatever is not too long. -/
theorem Cipher.exists_encrypt_aes (key : AesKey) {plain : List UInt8}
    (h : plain.length ≤ Gcm.maxLength) (nonce : List UInt8) :
    ∃ text, (Cipher.aes key).encrypt nonce plain = .ok text :=
  ⟨_, if_pos h⟩

namespace Sealing

variable {s : Sealing} {c : Cipher} {m m' : MemoryStore} {id key : String} {t stored : Ticket}

/-- Identifiers with different digests have different keys. -/
theorem key_ne_of_digest (hactive : s.isActive = true) {a b : String}
    (ha : Text.isBlank a = false) (hb : Text.isBlank b = false)
    (h : Sha512.digest (Utf8.encode a) ≠ Sha512.digest (Utf8.encode b)) : s.key a ≠ s.key b := by
  rwa [key_of_active hactive ha, key_of_active hactive hb, ne_eq, Sha512.hexDigest_inj]

/-- A ticket that the cipher encrypts is put down as a sealed one. -/
theorem exists_encode_of_encrypts (hactive : s.active? = some c) (ht : t.isSealed = false)
    (hfits : Layout.ticket.fits t = true) (nonce : List UInt8)
    (hencrypts : ∃ text, c.encrypt nonce (Layout.ticket.write t) = .ok text) :
    ∃ e : SealedTicket, s.encode nonce t = .ok (.sealed e) ∧ e.id = s.key t.id := by
  obtain ⟨payload, hpayload⟩ := hencrypts
  exact ⟨_, (encode_eq_ok_iff hactive ht).2 ⟨_, payload, if_pos hfits, hpayload, rfl⟩, rfl⟩

theorem keyed_empty : s.Keyed .empty where
  entry hget := by cases hget
  hold hget := by cases hget

/-- What was encoded for a ticket may be put under its own identifier. -/
theorem Opens.puts (hs : s.Opens) (ht : s.isActive = true → t.isSealed = false)
    {nonce : List UInt8} (hnonce : nonce.length = s.nonceLength t)
    (h : s.encode nonce t = .ok stored) (m : MemoryStore) :
    s.Puts m (t.mapDates s.redate) (m.put stored.id stored) := by
  obtain ⟨hdecode, hid, hhold⟩ := hs.of_encode ht hnonce h
  exact ⟨stored, by rw [hid, Ticket.id_mapDates], hdecode, hhold⟩

/-! ### Where it leads -/

/-- With an active cipher, an entry is opened to the same ticket under every identifier. -/
theorem decode_relabel (hactive : s.active? = some c) (h : s.decode stored = .ok t)
    (label : String) : s.decode (stored.relabel label) = .ok t := by
  cases stored with
  | sealed e =>
    rw [decode_sealed hactive] at h
    obtain ⟨bytes, hbytes, hread, ht⟩ := opened_eq_ok_iff.1 h
    exact (decode_sealed hactive _).trans (opened_eq_ok_iff.2 ⟨bytes, hbytes, hread, ht⟩)
  | _ => exact h

/-- An entry that was put under the key of an identifier leads to the ticket that it led to
before. -/
theorem Keyed.resolve_of_moved (hm : s.Keyed m) (hactive : s.active? = some c)
    (hid : Text.isBlank id = false) (h : m.Moved key m' (s.key id)) :
    ∃ t, s.resolve m' id = .ok (some t) ∧ s.Stores m t ∧ key = s.key t.id := by
  obtain ⟨kept, label, hget, hmoved⟩ := h
  obtain ⟨t, ht, -⟩ := hm.entry hget
  obtain ⟨hstores, hkey⟩ := hm.stores_of_get? hget ht
  refine ⟨t, ?_, hstores, hkey⟩
  exact resolve_eq_some_iff.2 ⟨hid, _, hmoved, decode_relabel hactive ht label⟩

end Sealing

/-! ### What is found -/

namespace Registry

variable {r : Registry MemoryStore} {c : Cipher}

/-- With an active cipher, nothing binds a payload to an identifier: it is opened to the same ticket
under every identifier, and what was put down for a ticket is opened to this ticket, with its dates
as they are read back, wherever it is. So a payload is under the key of its ticket exactly if it is
where it was put down.

Let every entry of a store be under the key of its ticket, and let the entries be rearranged. A
look-up finds nothing exactly if nothing is under the key. Otherwise it finds one of the tickets
that were stored, as it was: the one whose entry came under the key. That ticket has the key that
was asked for exactly if the entry was under this key before. -/
theorem find_of_rearranges (hr : r.InMemory) (hactive : r.sealing.active? = some c) :
    (∀ {e : SealedTicket} {t}, r.sealing.decode (.sealed e) = .ok t →
      ∀ id, r.sealing.decode (.sealed { e with id := id }) = .ok t) ∧
    (c.RoundTrips → ∀ {t nonce e}, t.isSealed = false → nonce.length = c.nonceLength →
      r.sealing.encode nonce t = .ok (.sealed e) →
      ∀ id, r.sealing.decode (.sealed { e with id := id }) = .ok (t.mapDates .reread) ∧
        (r.sealing.key t.id = id ↔ e.id = id)) ∧
    ∀ {m m' : MemoryStore}, r.sealing.Keyed m → m.Rearranges m' →
      ∀ {id}, Text.isBlank id = false → ∀ tape metrics,
        m'.get? (r.sealing.key id) = none ∧
            r.find id ⟨m', tape, metrics⟩ = .ok none ⟨m', tape, metrics⟩ ∨
          ∃ t, r.find id ⟨m', tape, metrics⟩ = .ok (some t) ⟨m', tape, metrics⟩ ∧
            r.sealing.Stores m t ∧ m.Moved (r.sealing.key t.id) m' (r.sealing.key id) ∧
            (r.sealing.key t.id = r.sealing.key id ↔
              m.Moved (r.sealing.key id) m' (r.sealing.key id)) := by
  refine ⟨fun h id => Sealing.decode_relabel hactive h id, ?_, ?_⟩
  · intro hround t nonce e ht hnonce hencode id
    obtain ⟨-, payload, -, -, hsealed⟩ := (Sealing.encode_eq_ok_iff hactive ht).1 hencode
    obtain rfl := Ticket.sealed.inj hsealed
    have hdecode := Sealing.decode_of_encode hactive hround ht hnonce hencode
    exact ⟨Sealing.decode_relabel hactive hdecode id, Iff.rfl⟩
  · intro m m' hm hmoved id hid tape metrics
    cases hget : m'.get? (r.sealing.key id) with
    | none => exact .inl ⟨rfl, find_of_resolve hr (Sealing.resolve_of_get?_eq_none hget)⟩
    | some stored =>
      obtain ⟨key, hkey⟩ := hmoved _ stored hget
      obtain ⟨t, hfound, hstores, rfl⟩ := hm.resolve_of_moved hactive hid hkey
      refine .inr ⟨t, find_of_resolve hr hfound, hstores, hkey, fun heq => heq ▸ hkey, ?_⟩
      -- What is there has one ticket in it, so it came from the key of this ticket only.
      intro hthere
      obtain ⟨t', hfound', -, heq⟩ := hm.resolve_of_moved hactive hid hthere
      obtain rfl := Option.some.inj (Except.ok.inj (hfound.symm.trans hfound'))
      exact heq.symm

/-- The entries of two sessions are swapped, each under the storage key of the other one. With the
identifier of the first session, the second one is found. -/
theorem find_of_rearranges_swapped :
    let now : Instant := ⟨⟨2024, 1, 1, by decide⟩, 0, 0, by decide, by decide⟩
    let ticket (id user : String) : Ticket :=
      .session (.fresh id ⟨⟨user, .empty⟩, [], .empty, .empty, .empty, now⟩ now .never)
    let s : Sealing := .withCipher (.masking 90 true)
    ∃ mine theirs : SealedTicket,
      s.encode [] (ticket "TGT-1" "alice") = .ok (.sealed mine) ∧
      s.encode [] (ticket "TGT-2" "bob") = .ok (.sealed theirs) ∧
      let m := (MemoryStore.empty.put mine.id (.sealed mine)).put theirs.id (.sealed theirs)
      let m' := (m.put mine.id (.sealed { theirs with id := mine.id })).put theirs.id
        (.sealed { mine with id := theirs.id })
      s.Keyed m ∧ m.Rearranges m' ∧
        ∃ w, find ⟨.memory, s⟩ "TGT-1" ⟨m', ⟨fun _ => 0, 0⟩, .empty⟩ =
          .ok (some (ticket "TGT-2" "bob")) w := by
  intro now ticket s
  have hactive : s.active? = some (.masking 90 true) := rfl
  have hround : (Cipher.masking 90 true).RoundTrips := Cipher.roundTrips_masking 90 true
  have hs : s.Opens := by
    intro c hc
    obtain rfl := Option.some.inj (hactive.symm.trans hc)
    exact hround
  obtain ⟨mine, hmine, hmineid⟩ := Sealing.exists_encode_of_encrypts
    (t := ticket "TGT-1" "alice") hactive rfl (by decide) [] ⟨_, rfl⟩
  obtain ⟨theirs, htheirs, htheirsid⟩ := Sealing.exists_encode_of_encrypts
    (t := ticket "TGT-2" "bob") hactive rfl (by decide) [] ⟨_, rfl⟩
  have hne : mine.id ≠ theirs.id := by
    rw [hmineid, htheirsid]
    exact Sealing.key_ne_of_digest rfl (by decide) (by decide) (by decide +kernel)
  refine ⟨mine, theirs, hmine, htheirs, ?_⟩
  intro m m'
  have hkeyed : s.Keyed m :=
    (hs.puts (fun _ => rfl) rfl htheirs _).keyed (by decide)
      ((hs.puts (fun _ => rfl) rfl hmine _).keyed (by decide) Sealing.keyed_empty)
  have hgetTheirs : m.get? theirs.id = some (.sealed theirs) := MemoryStore.get?_put_self _ _ _
  have hgetMine : m.get? mine.id = some (.sealed mine) := by
    rw [MemoryStore.get?_put_of_ne _ _ hne, MemoryStore.get?_put_self]
  have hmoved : m.Rearranges m' :=
    ((MemoryStore.rearranges_refl m).put hgetTheirs mine.id mine.id).put hgetMine theirs.id
      theirs.id
  refine ⟨hkeyed, hmoved, ?_⟩
  obtain ⟨-, hopens, hfinds⟩ := find_of_rearranges (inMemory_memory s) hactive
  have hthere : m'.get? (s.key "TGT-1") = some (.sealed { theirs with id := mine.id }) := by
    rw [← show mine.id = s.key "TGT-1" from hmineid, MemoryStore.get?_put_of_ne _ _ hne,
      MemoryStore.get?_put_self]
  have hblank : Text.isBlank "TGT-1" = false := by decide
  rcases hfinds hkeyed hmoved hblank ⟨fun _ => 0, 0⟩ .empty with ⟨hnone, -⟩ | ⟨t, hfound, -⟩
  · rw [hthere] at hnone
    cases hnone
  · -- The payload that is there now was put down for the second session.
    have hresolve := resolve_of_find (inMemory_memory s) hfound
    obtain ⟨-, stored, hget, hdecode⟩ := Sealing.resolve_eq_some_iff.1 hresolve
    obtain rfl := Option.some.inj (hthere.symm.trans hget)
    obtain ⟨hopened, -⟩ := hopens hround rfl rfl htheirs mine.id
    obtain rfl := Except.ok.inj (hopened.symm.trans hdecode)
    exact ⟨_, hfound⟩

/-- The payload of one session, encrypted with AES, is put under the storage key of another
identifier. It is opened, to a ticket with another key, and a look-up of the other identifier finds
this ticket. -/
theorem decode_moved_payload :
    let now : Instant := ⟨⟨2024, 1, 1, by decide⟩, 0, 0, by decide, by decide⟩
    let bob : Ticket :=
      .session (.fresh "TGT-2" ⟨⟨"bob", .empty⟩, [], .empty, .empty, .empty, now⟩ now .never)
    let s : Sealing := .withCipher (.aes ⟨List.replicate 32 42, rfl⟩)
    ∃ theirs : SealedTicket, s.encode (List.replicate 12 7) bob = .ok (.sealed theirs) ∧
      let moved : SealedTicket := { theirs with id := s.key "TGT-1" }
      let w : World MemoryStore :=
        ⟨(MemoryStore.empty.put theirs.id (.sealed theirs)).put moved.id (.sealed moved),
          ⟨fun _ => 0, 0⟩, .empty⟩
      s.decode (.sealed moved) = .ok bob ∧ s.key bob.id ≠ moved.id ∧
        find ⟨.memory, s⟩ "TGT-1" w = .ok (some bob) w := by
  intro now bob s
  have hactive : s.active? = some (.aes ⟨List.replicate 32 42, rfl⟩) := rfl
  obtain ⟨theirs, htheirs, -⟩ := Sealing.exists_encode_of_encrypts (t := bob) hactive rfl
    (by decide) (List.replicate 12 7) (Cipher.exists_encrypt_aes _ (by decide +kernel) _)
  refine ⟨theirs, htheirs, ?_⟩
  intro moved w
  have hmoved : s.decode (.sealed moved) = .ok bob :=
    Sealing.decode_relabel hactive
      (Sealing.decode_of_encode hactive (Cipher.roundTrips_aes _) rfl rfl htheirs) _
  have hne : s.key "TGT-2" ≠ s.key "TGT-1" :=
    Sealing.key_ne_of_digest rfl (by decide) (by decide) (by decide +kernel)
  have hget : w.store.get? moved.id = some (.sealed moved) := MemoryStore.get?_put_self _ _ _
  have hresolve : s.resolve w.store "TGT-1" = .ok (some bob) :=
    Sealing.resolve_eq_some_iff.2 ⟨by decide, _, hget, hmoved⟩
  exact ⟨hmoved, hne, find_of_resolve (inMemory_memory s) hresolve⟩

end Registry

end SignOn
