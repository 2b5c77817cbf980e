import SignOn.Proofs.Registry.Memory

/-!
# Links between stored tickets

A store is keyed if every ticket stands under the storage key of its own identifier, and well linked
if moreover every identifier that a ticket lists leads to nothing or to a ticket of the right kind
that names the lister as its parent. Then a ticket is listed by its parent only, and the tickets
that two parents list have nothing in common.

## Main definitions

* `Sealing.Stores` - a ticket is found under its own identifier
* `Sealing.Redated` - a stored ticket as it is found when it was put again
* `Sealing.InPlay` - the identifiers of stored tickets and those that they list
* `Sealing.Keyed`, `Sealing.WellLinked` - the two conditions on a store
* `MemoryStore.isWellLinked` - the check of a store without encryption

## Main results

* `Sealing.Keyed.id_eq_of_resolve` - an identifier leads to the ticket with this identifier
* `Sealing.WellLinked.key_ne_of_session` - no ticket lists a stored session
* `Sealing.wellLinked_of_isWellLinked` - what passes the check is well linked
-/

namespace SignOn

/-- The identifier of a ticket, and those that it lists. -/
def Ticket.Mentions (t : Ticket) (id : String) : Prop :=
  id = t.id ∨ ∃ body, t.session? = some body ∧ (id ∈ body.services.keys ∨ id ∈ body.proxies.keys)

/-- The identifier of the ticket that a ticket came from. -/
def Ticket.parent? : Ticket → Option String
  | .service t => some t.parent
  | .proxy t => some t.parent
  | .session _ | .sealed _ => none

/-- Which identifiers a ticket mentions does not depend on its dates. -/
theorem Ticket.mentions_mapDates_iff {f : Instant → Instant} {t : Ticket} {id : String} :
    (t.mapDates f).Mentions id ↔ t.Mentions id := by
  cases t <;> simp [Mentions]

@[simp] theorem Ticket.parent?_mapSession (change : Session → Session) (t : Ticket) :
    (t.mapSession change).parent? = t.parent? := by
  cases t <;> rfl

/-- The body of a ticket has the identifier of the ticket. -/
theorem Ticket.id_of_session? {t : Ticket} {body : Session} (h : t.session? = some body) :
    body.id = t.id := by
  cases t with
  | session t => obtain rfl := Option.some.inj h; rfl
  | proxy t => obtain rfl := Option.some.inj h; rfl
  | service t => cases h
  | sealed t => cases h

theorem Ticket.isSealed_of_session? {t : Ticket} {body : Session} (h : t.session? = some body) :
    t.isSealed = false := by
  cases t with
  | sealed t => cases h
  | _ => rfl

theorem Ticket.id_mapSession (change : Session → Session) (t : Ticket)
    (hchange : ∀ body, (change body).id = body.id) : (t.mapSession change).id = t.id := by
  cases t with
  | session t => exact hchange t
  | proxy t => exact hchange t.body
  | service t => rfl
  | sealed t => rfl

theorem Ticket.isSealed_mapSession (change : Session → Session) (t : Ticket) :
    (t.mapSession change).isSealed = t.isSealed := by
  cases t <;> rfl

namespace Sealing

variable {s : Sealing} {m : MemoryStore} {id child : String} {t stored : Ticket} {body : Session}

/-- A ticket is stored if its own identifier leads to it. -/
def Stores (s : Sealing) (m : MemoryStore) (t : Ticket) : Prop := s.resolve m t.id = .ok (some t)

/-- The identifiers of stored tickets, and those that they list. -/
def InPlay (s : Sealing) (m : MemoryStore) (id : String) : Prop := ∃ t, s.Stores m t ∧ t.Mentions id

/-- Every entry is opened to a ticket with an identifier that is not blank, and stands under the
storage key of that identifier. What stands there unsealed could also be sealed. -/
structure Keyed (s : Sealing) (m : MemoryStore) : Prop where
  entry : ∀ {key stored}, m.get? key = some stored →
    ∃ t, s.decode stored = .ok t ∧ Text.isBlank t.id = false ∧ key = s.key t.id
  hold : ∀ {key stored}, m.get? key = some stored → stored.isSealed = false → s.CanHold stored

/-- Every identifier that a stored ticket lists leads to nothing, or to a ticket of the right kind
that came from it. -/
structure WellLinked (s : Sealing) (m : MemoryStore) : Prop extends s.Keyed m where
  services : ∀ {t body}, s.Stores m t → t.session? = some body → ∀ child ∈ body.services.keys,
    s.resolve m child = .ok Option.none ∨
      ∃ st, s.resolve m child = .ok (some (.service st)) ∧ st.parent = t.id
  proxies : ∀ {t body}, s.Stores m t → t.session? = some body → ∀ child ∈ body.proxies.keys,
    s.resolve m child = .ok Option.none ∨
      ∃ p, s.resolve m child = .ok (some (.proxy p)) ∧ p.parent = t.id

/-! ### Keyed stores -/

theorem Stores.inPlay (h : s.Stores m t) : s.InPlay m t.id := ⟨t, h, .inl rfl⟩

theorem Stores.inPlay_service (h : s.Stores m t) (hbody : t.session? = some body)
    (hchild : child ∈ body.services.keys) : s.InPlay m child :=
  ⟨t, h, .inr ⟨body, hbody, .inl hchild⟩⟩

theorem Stores.inPlay_proxy (h : s.Stores m t) (hbody : t.session? = some body)
    (hchild : child ∈ body.proxies.keys) : s.InPlay m child :=
  ⟨t, h, .inr ⟨body, hbody, .inr hchild⟩⟩

/-- A stored ticket as it is found when it was put again: as it was, unless it was not sealed before
and is now. Then it has its dates as they are read back. -/
def Redated (s : Sealing) (m : MemoryStore) (t t' : Ticket) : Prop :=
  t' = t ∨ s.isActive = true ∧ m.get? (s.key t.id) = some t ∧ t' = t.mapDates .reread

theorem Stores.redated (h : s.Stores m t) : s.Redated m t (t.mapDates s.redate) := by
  obtain ⟨-, stored, hget, hdecode⟩ := resolve_eq_some_iff.1 h
  by_cases hsealed : s.isActive = true → stored.isSealed = true
  · exact .inl (mapDates_of_decode hdecode hsealed)
  · -- The ticket is stored as it is.
    obtain ⟨hactive, hsealed⟩ := Classical.not_imp.1 hsealed
    rw [Bool.not_eq_true] at hsealed
    obtain rfl := Except.ok.inj ((decode_of_not_isSealed s hsealed).symm.trans hdecode)
    exact .inr ⟨hactive, hget, by rw [redate_of_active hactive]⟩

theorem Redated.eq_of_onMinute {t' : Ticket} (h : s.Redated m t t')
    (hminute : ∀ i ∈ t.dates, i.OnMinute) : t' = t := by
  rcases h with rfl | ⟨-, -, rfl⟩
  · rfl
  · exact Ticket.mapDates_reread_eq_self_iff.2 hminute

/-- What an entry is opened to is stored, under the key of the entry. -/
theorem Keyed.stores_of_get? (hk : s.Keyed m) {key : String} (hget : m.get? key = some stored)
    (ht : s.decode stored = .ok t) : s.Stores m t ∧ key = s.key t.id := by
  obtain ⟨t', ht', hblank, hkey⟩ := hk.entry hget
  obtain rfl := Except.ok.inj (ht.symm.trans ht')
  rw [hkey] at hget
  exact ⟨resolve_eq_some_iff.2 ⟨hblank, stored, hget, ht⟩, hkey⟩

/-- What an identifier leads to is stored. -/
theorem Keyed.stores_of_resolve (hk : s.Keyed m) (h : s.resolve m id = .ok (some t)) :
    s.Stores m t ∧ s.key id = s.key t.id := by
  obtain ⟨-, stored, hget, ht⟩ := resolve_eq_some_iff.1 h
  exact hk.stores_of_get? hget ht

/-- An identifier leads to the ticket with this identifier. -/
theorem Keyed.id_eq_of_resolve (hk : s.Keyed m) (hsep : s.Separates (s.InPlay m))
    (hid : s.InPlay m id) (h : s.resolve m id = .ok (some t)) : t.id = id := by
  obtain ⟨hstores, hkey⟩ := hk.stores_of_resolve h
  exact (hsep id t.id hid hstores.inPlay hkey).symm

/-- A sealed ticket has a stored form, as it was read from one. -/
theorem canHold_of_opened {sealedTicket : SealedTicket} {c : Cipher}
    (h : opened c sealedTicket = .ok t) : s.CanHold t := by
  intro _
  unfold opened at h
  split at h
  · cases h
  next bytes _ =>
    split at h
    · cases h
    · cases h
    next ticket _ hbytes =>
      obtain rfl := Except.ok.inj h
      exact (Layout.rereads_ticket.of_deserialize hbytes).1

theorem canHold_mapDates_iff {f : Instant → Instant} : s.CanHold (t.mapDates f) ↔ s.CanHold t := by
  rw [CanHold, CanHold, Layout.fits_mapDates]

theorem CanHold.mapSession {change : Session → Session}
    (hchange : ∀ body, Layout.session.fits body = true → Layout.session.fits (change body) = true)
    (h : s.CanHold t) : s.CanHold (t.mapSession change) :=
  fun hactive => Layout.fits_mapSession hchange (h hactive)

/-- A stored ticket can be put down again. -/
theorem Keyed.canHold (hk : s.Keyed m) (h : s.Stores m t) : s.CanHold t := by
  obtain ⟨-, stored, hget, ht⟩ := resolve_eq_some_iff.1 h
  cases hsealed : stored.isSealed with
  | false =>
    rw [decode_of_not_isSealed s hsealed] at ht
    obtain rfl := Except.ok.inj ht
    exact hk.hold hget hsealed
  | true =>
    -- What is sealed is opened only by an active cipher.
    cases hactive : s.isActive with
    | false => exact canHold_of_inactive hactive t
    | true =>
      obtain ⟨c, hc⟩ := isActive_iff.1 hactive
      cases stored with
      | sealed sealedTicket =>
        rw [decode_sealed hc] at ht
        exact canHold_of_opened ht
      | _ => cases hsealed

/-! ### Well-linked stores -/

variable {t' : Ticket} {body' : Session} {child' : String}

/-- A service ticket and a proxy-granting ticket never stand under the same key, so an identifier
that is listed as both leads nowhere. -/
theorem WellLinked.resolve_eq_none_of_key_eq (hm : s.WellLinked m) (ht : s.Stores m t)
    (hbody : t.session? = some body) (ht' : s.Stores m t') (hbody' : t'.session? = some body')
    (hsep : s.Separates (s.InPlay m)) (hchild : child ∈ body.services.keys)
    (hchild' : child' ∈ body'.proxies.keys) (hkey : s.key child = s.key child') :
    s.resolve m child' = .ok Option.none := by
  have heq : child = child' :=
    hsep child child' (ht.inPlay_service hbody hchild) (ht'.inPlay_proxy hbody' hchild') hkey
  subst heq
  -- If it led somewhere, the ticket would be of both kinds.
  rcases hm.proxies ht' hbody' child hchild' with hnone | ⟨p, hp, -⟩
  · exact hnone
  · rcases hm.services ht hbody child hchild with hnone | ⟨st, hst, -⟩
    · exact hnone
    · rw [hst] at hp
      cases hp

/-- The key of a stored session is none of those that a ticket lists. -/
theorem WellLinked.key_ne_of_session (hm : s.WellLinked m) (hsep : s.Separates (s.InPlay m))
    {root : Session} (hroot : s.Stores m (.session root)) (ht : s.Stores m t)
    (hbody : t.session? = some body)
    (hchild : child ∈ body.services.keys ∨ child ∈ body.proxies.keys) :
    s.key child ≠ s.key root.id := by
  intro hkey
  have heq : child = root.id :=
    hsep child root.id ⟨t, ht, .inr ⟨body, hbody, hchild⟩⟩ hroot.inPlay hkey
  have hresolve : s.resolve m child = .ok (some (.session root)) := heq ▸ hroot
  rcases hchild with hchild | hchild
  · rcases hm.services ht hbody child hchild with h | ⟨st, h, -⟩ <;> rw [hresolve] at h <;> cases h
  · rcases hm.proxies ht hbody child hchild with h | ⟨p, h, -⟩ <;> rw [hresolve] at h <;> cases h

/-- A ticket that has a list is none of the service tickets that a ticket lists. -/
theorem WellLinked.key_not_mem_services (hm : s.WellLinked m) (ht : s.Stores m t)
    (hbody : t.session? = some body) (hfound : s.resolve m id = .ok (some t'))
    (hbody' : t'.session? = some body') : s.key id ∉ body.services.keys.map s.key := by
  intro hmem
  obtain ⟨child, hchild, hkey⟩ := List.mem_map.1 hmem
  rw [← resolve_of_key_eq hkey] at hfound
  rcases hm.services ht hbody child hchild with hnone | ⟨st, hst, -⟩
  · rw [hfound] at hnone
    cases hnone
  · rw [hfound] at hst
    cases hst
    cases hbody'

/-- Without an active cipher, a ticket is stored if it stands under its own identifier. -/
theorem stores_iff_of_inactive (h : s.isActive = false) :
    s.Stores m t ↔ Text.isBlank t.id = false ∧ m.get? t.id = some t := by
  simp only [Stores, resolve_eq_some_iff, key_of_inactive h, decode_of_inactive h, Except.ok.injEq,
    exists_eq_right]

end Sealing

/-! ### Checking a store -/

namespace MemoryStore

/-- Whether an identifier leads to nothing or to a ticket that passes a check. -/
def leadsTo (m : MemoryStore) (check : Ticket → Bool) (id : String) : Bool :=
  (m.get? id).all check

/-- Whether the tickets of a store are well linked as they are kept. -/
def isWellLinked (m : MemoryStore) : Bool :=
  m.entries.entries.all fun e =>
    e.1 == e.2.id && !Text.isBlank e.1 && e.2.session?.all fun body =>
      body.services.keys.all (m.leadsTo fun found =>
        found.service?.any fun st => st.parent == e.1) &&
      body.proxies.keys.all (m.leadsTo fun found => found.proxy?.any fun p => p.parent == e.1)

end MemoryStore

namespace Sealing

variable {s : Sealing} {m : MemoryStore} {id : String}

theorem resolve_of_leadsTo (h : s.isActive = false) {check : Ticket → Bool}
    (hcheck : m.leadsTo check id = true) :
    s.resolve m id = .ok Option.none ∨ ∃ t, s.resolve m id = .ok (some t) ∧ check t = true := by
  unfold resolve
  rw [key_of_inactive h]
  split
  · exact .inl rfl
  · cases hget : m.get? id with
    | none => exact .inl rfl
    | some t =>
      rw [MemoryStore.leadsTo, hget] at hcheck
      exact .inr ⟨t, by simp only [decode_of_inactive h]; rfl, hcheck⟩

theorem wellLinked_of_isWellLinked (h : s.isActive = false) (hm : m.isWellLinked = true) :
    s.WellLinked m := by
  rw [MemoryStore.isWellLinked, List.all_eq_true] at hm
  -- Every entry passes the three checks.
  have hentry : ∀ {key stored}, m.get? key = some stored → key = stored.id ∧
      Text.isBlank key = false ∧ ∀ body, stored.session? = some body →
        (∀ child ∈ body.services.keys, m.leadsTo (fun found =>
          found.service?.any fun st => st.parent == key) child = true) ∧
        ∀ child ∈ body.proxies.keys, m.leadsTo (fun found =>
          found.proxy?.any fun p => p.parent == key) child = true := by
    intro key stored hget
    have hall := hm (key, stored) (TextMap.mem_entries_iff.2 hget)
    simp only [Bool.and_eq_true, beq_iff_eq, Bool.not_eq_true', Option.all_eq_true,
      List.all_eq_true] at hall
    exact ⟨hall.1.1, hall.1.2, hall.2⟩
  refine { entry := ?_, hold := ?_, services := ?_, proxies := ?_ }
  · intro key stored hget
    obtain ⟨rfl, hblank, -⟩ := hentry hget
    exact ⟨stored, decode_of_inactive h stored, hblank, (key_of_inactive h stored.id).symm⟩
  · intro key stored _ _
    exact canHold_of_inactive h stored
  · intro t body ht hbody child hchild
    obtain ⟨-, -, hlinks⟩ := hentry ((stores_iff_of_inactive h).1 ht).2
    rcases resolve_of_leadsTo h ((hlinks body hbody).1 child hchild) with
      hnone | ⟨found, hfound, hst⟩
    · exact .inl hnone
    · cases found with
      | service st => exact .inr ⟨st, hfound, by simpa [Ticket.service?] using hst⟩
      | _ => simp [Ticket.service?] at hst
  · intro t body ht hbody child hchild
    obtain ⟨-, -, hlinks⟩ := hentry ((stores_iff_of_inactive h).1 ht).2
    rcases resolve_of_leadsTo h ((hlinks body hbody).2 child hchild) with
      hnone | ⟨found, hfound, hp⟩
    · exact .inl hnone
    · cases found with
      | proxy p => exact .inr ⟨p, hfound, by simpa [Ticket.proxy?] using hp⟩
      | _ => simp [Ticket.proxy?] at hp

end Sealing

end SignOn
