import SignOn.Proofs.Registry.Links
import SignOn.Proofs.Store.Triple
import SignOn.Proofs.Ticket.Identifiers

/-!
# Stores that an issuer fills

Starting from an empty store, an issuer opens sessions and issues tickets from stored sessions and
proxy-granting tickets; every new ticket is added, and the ticket that it came from is updated. A
store filled in this way is a forest: links lead back and forth between a ticket and its parent, and
a parent was always issued before its children.

## Main definitions

* `Registry.Issues` - what an issuer can do to an empty store
* `Sealing.Puts` - a ticket was put into a store
* `Sealing.Rewrites` - a stored ticket was put again with another body
* `Sealing.Accounted` - a store is well linked, and its links are between issued identifiers
* `Sealing.Grants` - a ticket was issued from a stored one
* `Sealing.Forest` - the links of a store lead back and forth, and parents are older

## Main results

* `Registry.Issues.not_mem_ids` - the next identifier is a new one
* `Sealing.Grants.accounted` - issuing a ticket keeps a store well linked
* `Registry.Issues.forest` - what an issuer fills is a forest
-/

namespace SignOn

/-- Whether a session lists a ticket as one that came from it. -/
def Session.Lists (body : Session) : Ticket → Prop
  | .service t => t.id ∈ body.services.keys
  | .proxy t => t.id ∈ body.proxies.keys
  | .session _ | .sealed _ => False

/-! ### Runs of an issuer -/

namespace Registry

/-- What an issuer can do to an empty store: open sessions, and issue tickets from what is stored.
The identifiers are those of all issued tickets, the last one first. -/
inductive Issues (r : Registry MemoryStore) (lifetimes : Lifetimes) :
    List String → Issuer → World MemoryStore → Prop where
  | start (tape : Tape) (metrics : Metrics) :
      Issues r lifetimes [] (.start lifetimes) ⟨.empty, tape, metrics⟩
  | openSession {ids : List String} {issuer issuer' : Issuer} {w w' : World MemoryStore}
      {session : Session} {authentication : Authentication} {now : Instant} {random : List UInt8}
      (before : Issues r lifetimes ids issuer w)
      (opened : issuer.openSession authentication now random = (session, issuer'))
      (added : r.add (.session session) w = .ok () w') :
      Issues r lifetimes (session.id :: ids) issuer' w'
  | grantService {ids : List String} {issuer issuer' : Issuer} {w w₁ w₂ : World MemoryStore}
      {id : String} {t : Ticket} {body body' : Session} {child : ServiceTicket} {service : Service}
      {fromNewLogin : Bool} {now : Instant} {random : List UInt8}
      (before : Issues r lifetimes ids issuer w)
      (found : r.find id w = .ok (some t) w) (granting : t.session? = some body)
      (granted : issuer.grantService body service fromNewLogin now random = (child, body', issuer'))
      (added : r.add (.service child) w = .ok () w₁)
      (updated : r.update (t.mapSession fun _ => body') w₁ = .ok () w₂) :
      Issues r lifetimes (child.id :: ids) issuer' w₂
  | grantProxy {ids : List String} {issuer issuer' : Issuer} {w w₁ w₂ : World MemoryStore}
      {id : String} {t : Ticket} {body body' : Session} {child : ProxyTicket} {service : Service}
      {now : Instant} {random : List UInt8}
      (before : Issues r lifetimes ids issuer w)
      (found : r.find id w = .ok (some t) w) (granting : t.session? = some body)
      (granted : issuer.grantProxy body service now random = (child, body', issuer'))
      (added : r.add (.proxy child) w = .ok () w₁)
      (updated : r.update (t.mapSession fun _ => body') w₁ = .ok () w₂) :
      Issues r lifetimes (child.id :: ids) issuer' w₂

namespace Issues

variable {r : Registry MemoryStore} {lifetimes : Lifetimes} {ids : List String} {issuer : Issuer}
  {w : World MemoryStore}

theorem numbered (h : r.Issues lifetimes ids issuer w) (hlength : ids.length < 2 ^ 64) :
    issuer.Numbered ids := by
  induction h with
  | start => exact ⟨rfl, fun id hid => by cases hid⟩
  | openSession before opened added ih =>
    obtain ⟨rfl, rfl⟩ := Prod.mk.inj opened
    exact (ih (Nat.lt_of_succ_lt hlength)).next .session _ hlength
  | grantService before found granting granted added updated ih =>
    obtain ⟨rfl, hrest⟩ := Prod.mk.inj granted
    obtain ⟨rfl, rfl⟩ := Prod.mk.inj hrest
    exact (ih (Nat.lt_of_succ_lt hlength)).next .service _ hlength
  | grantProxy before found granting granted added updated ih =>
    obtain ⟨rfl, hrest⟩ := Prod.mk.inj granted
    obtain ⟨rfl, rfl⟩ := Prod.mk.inj hrest
    exact (ih (Nat.lt_of_succ_lt hlength)).next .proxy _ hlength

/-- The next identifier is a new one, whatever its random bytes are. -/
theorem not_mem_ids (h : r.Issues lifetimes ids issuer w) (hlength : ids.length + 1 < 2 ^ 64)
    (kind : TicketKind) (random : List UInt8) : issuer.nextId kind random ∉ ids :=
  (h.numbered (Nat.lt_of_succ_lt hlength)).nextId_not_mem hlength kind random

end Issues

end Registry

/-! ### Putting a ticket -/

namespace Sealing

variable {s : Sealing} {m m' : MemoryStore} {id : String} {t u : Ticket}

/-- A ticket was put into a store, as something that is opened to it. -/
def Puts (s : Sealing) (m : MemoryStore) (t : Ticket) (m' : MemoryStore) : Prop :=
  ∃ stored, m' = m.put (s.key t.id) stored ∧ s.decode stored = .ok t ∧
    (stored.isSealed = false → s.CanHold stored)

/-- The identifiers with the key of the ticket lead to it; others lead where they led before. -/
theorem Puts.resolve_eq (h : s.Puts m t m') (ht : Text.isBlank t.id = false) (id : String) :
    s.resolve m' id = if s.key id = s.key t.id then .ok (some t) else s.resolve m id := by
  obtain ⟨stored, rfl, hstored, -⟩ := h
  split
  next hkey =>
    have hid : Text.isBlank id = false := by rw [← isBlank_key s id, hkey, isBlank_key, ht]
    exact resolve_eq_some_iff.2 ⟨hid, stored, by rw [hkey, MemoryStore.get?_put_self], hstored⟩
  next hkey => exact resolve_congr (MemoryStore.get?_put_of_ne m stored hkey)

theorem Puts.stores_iff (h : s.Puts m t m') (ht : Text.isBlank t.id = false) :
    s.Stores m' u ↔ u = t ∨ s.key u.id ≠ s.key t.id ∧ s.Stores m u := by
  rw [Stores, h.resolve_eq ht]
  by_cases hkey : s.key u.id = s.key t.id
  · rw [if_pos hkey]
    constructor
    · intro heq
      cases heq
      exact .inl rfl
    · rintro (rfl | ⟨hne, -⟩)
      · rfl
      · exact absurd hkey hne
  · rw [if_neg hkey]
    refine ⟨fun hu => .inr ⟨hkey, hu⟩, ?_⟩
    rintro (rfl | ⟨-, hu⟩)
    · exact absurd rfl hkey
    · exact hu

/-- An entry is the new one or one from before. -/
theorem Puts.cases_of_get? (h : s.Puts m t m') {key : String} {stored : Ticket}
    (hget : m'.get? key = some stored) :
    key = s.key t.id ∧ s.decode stored = .ok t ∧ (stored.isSealed = false → s.CanHold stored) ∨
      m.get? key = some stored := by
  obtain ⟨new, rfl, hnew, hhold⟩ := h
  rw [MemoryStore.get?_put] at hget
  split at hget
  next hkey =>
    obtain rfl := Option.some.inj hget
    exact .inl ⟨hkey, hnew, hhold⟩
  next => exact .inr hget

theorem Puts.keyed (h : s.Puts m t m') (ht : Text.isBlank t.id = false) (hm : s.Keyed m) :
    s.Keyed m' := by
  refine ⟨fun {key stored} hget => ?_, fun {key stored} hget hsealed => ?_⟩
  · rcases h.cases_of_get? hget with ⟨hkey, hstored, -⟩ | hget
    · exact ⟨t, hstored, ht, hkey⟩
    · exact hm.entry hget
  · rcases h.cases_of_get? hget with ⟨-, -, hhold⟩ | hget
    · exact hhold hsealed
    · exact hm.hold hget hsealed

end Sealing

namespace Registry

variable {r : Registry MemoryStore} {t : Ticket} {w w' : World MemoryStore}

/-- An update that succeeds puts the ticket, with its dates as they come back, and one that fails
leaves the store as it is. A reliable sealing fails only for a ticket that it cannot hold. -/
theorem triple_update (hr : r.InMemory) (hs : r.sealing.Opens)
    (ht : r.sealing.isActive = true → t.isSealed = false) (m : MemoryStore) :
    (r.update t).Triple (fun w => w.store = m)
      (fun _ w => r.sealing.Puts m (t.mapDates r.sealing.redate) w.store)
      (fun w => w.store = m ∧ ¬(r.sealing.Reliable ∧ r.sealing.CanHold t)) := by
  rintro w rfl
  obtain ⟨nonce, tape, hnonce, hencode⟩ := encode_run r t w
  cases hresult : r.sealing.encode nonce t with
  | error e =>
    rw [hresult] at hencode
    rw [update, Action.bind_of_error hencode]
    refine ⟨rfl, ?_⟩
    rintro ⟨hreliable, hhold⟩
    obtain ⟨stored, hstored⟩ := hreliable.exists_encode_of_canHold ht hhold nonce hnonce
    rw [hstored] at hresult
    cases hresult
  | ok stored =>
    obtain ⟨hdecode, hid, hhold⟩ := hs.of_encode ht hnonce hresult
    rw [hresult] at hencode
    rw [update, Action.bind_of_ok hencode, World.onStore, hr.put, hid]
    exact ⟨stored, by rw [Ticket.id_mapDates], hdecode, hhold⟩

theorem puts_of_update (hr : r.InMemory) (hs : r.sealing.Opens) (ht : t.isSealed = false)
    (h : r.update t w = .ok () w') :
    r.sealing.Puts w.store (t.mapDates r.sealing.redate) w'.store :=
  (triple_update hr hs (fun _ => ht) w.store).of_ok rfl h

theorem puts_of_add (hr : r.InMemory) (hs : r.sealing.Opens) (ht : t.isSealed = false)
    (h : r.add t w = .ok () w') :
    r.sealing.Puts w.store (t.mapDates r.sealing.redate) w'.store := by
  obtain ⟨⟨⟩, w₁, hupdate, hcount⟩ := Action.bind_eq_ok_iff.1 h
  obtain ⟨-, rfl⟩ := EStateM.Result.ok.inj hcount
  have hputs := puts_of_update hr hs ht hupdate
  exact hputs

end Registry

/-! ### Another body for a stored ticket -/

/-- A ticket keeps its identifier with another body that has it. -/
theorem Ticket.id_mapSession_of_id_eq {t : Ticket} {body : Session} (h : body.id = t.id) :
    (t.mapSession fun _ => body).id = t.id := by
  cases t with
  | session t => exact h
  | proxy t => exact h
  | service t => rfl
  | sealed t => rfl

namespace Sealing

variable {s : Sealing} {m m' : MemoryStore} {t u : Ticket} {body' : Session} {x parent : String}

/-- A stored ticket was put again with another body. -/
structure Rewrites (s : Sealing) (m : MemoryStore) (t : Ticket) (body' : Session)
    (m' : MemoryStore) : Prop where
  stores : s.Stores m t
  granting : ∃ body, t.session? = some body
  id_eq : body'.id = t.id
  puts : s.Puts m (t.mapSession fun _ => body') m'

namespace Rewrites

theorem id_updated (h : s.Rewrites m t body' m') : (t.mapSession fun _ => body').id = t.id :=
  Ticket.id_mapSession_of_id_eq h.id_eq

theorem session?_updated (h : s.Rewrites m t body' m') :
    (t.mapSession fun _ => body').session? = some body' := by
  obtain ⟨body, hbody⟩ := h.granting
  rw [Ticket.session?_mapSession, hbody]
  rfl

theorem nonblank (h : s.Rewrites m t body' m') :
    Text.isBlank (t.mapSession fun _ => body').id = false := by
  rw [h.id_updated]
  exact (resolve_eq_some_iff.1 h.stores).1

/-- The updated ticket is found in the place of the one from before, and all others as before. -/
theorem resolve_eq (h : s.Rewrites m t body' m') (id : String) :
    s.resolve m' id = if s.key id = s.key t.id then .ok (some (t.mapSession fun _ => body'))
      else s.resolve m id := by
  rw [h.puts.resolve_eq h.nonblank, h.id_updated]

theorem cases_of_stores (h : s.Rewrites m t body' m') (hu : s.Stores m' u) :
    u = (t.mapSession fun _ => body') ∨ s.Stores m u ∧ s.key u.id ≠ s.key t.id := by
  rcases (h.puts.stores_iff h.nonblank).1 hu with rfl | ⟨hkey, hu⟩
  · exact .inl rfl
  · rw [h.id_updated] at hkey
    exact .inr ⟨hu, hkey⟩

theorem keyed (h : s.Rewrites m t body' m') (hm : s.Keyed m) : s.Keyed m' :=
  h.puts.keyed h.nonblank hm

/-- A link to a service ticket stays as it is: the updated ticket is no service ticket. -/
theorem service_link (h : s.Rewrites m t body' m')
    (hlink : s.resolve m x = .ok Option.none ∨
      ∃ st, s.resolve m x = .ok (some (.service st)) ∧ st.parent = parent) :
    s.resolve m' x = .ok Option.none ∨
      ∃ st, s.resolve m' x = .ok (some (.service st)) ∧ st.parent = parent := by
  rw [h.resolve_eq, if_neg]
  · exact hlink
  · intro hkey
    have hfound : s.resolve m x = .ok (some t) := (resolve_of_key_eq hkey).trans h.stores
    obtain ⟨body, hbody⟩ := h.granting
    -- The updated ticket has a body, which a service ticket has not.
    rw [hfound] at hlink
    rcases hlink with hnone | ⟨st, hst, -⟩
    · cases hnone
    · cases hst
      cases hbody

/-- A link to a proxy-granting ticket still leads to one with the same parent. -/
theorem proxy_link (h : s.Rewrites m t body' m')
    (hlink : s.resolve m x = .ok Option.none ∨
      ∃ p, s.resolve m x = .ok (some (.proxy p)) ∧ p.parent = parent) :
    s.resolve m' x = .ok Option.none ∨
      ∃ p, s.resolve m' x = .ok (some (.proxy p)) ∧ p.parent = parent := by
  rw [h.resolve_eq]
  by_cases hkey : s.key x = s.key t.id
  · have hfound : s.resolve m x = .ok (some t) := (resolve_of_key_eq hkey).trans h.stores
    rw [hfound] at hlink
    rw [if_pos hkey]
    rcases hlink with hnone | ⟨p, hp, hparent⟩
    · cases hnone
    · cases hp
      exact .inr ⟨{ p with body := body' }, rfl, hparent⟩
  · rw [if_neg hkey]
    exact hlink

end Rewrites

end Sealing

/-! ### Forests -/

namespace Sealing

variable {s : Sealing} {m m₁ m₂ : MemoryStore} {ids : List String} {t : Ticket} {body : Session}

/-- A well-linked store of tickets that were issued, and that list issued tickets. The identifiers
are those of all tickets that were ever issued. -/
structure Accounted (s : Sealing) (ids : List String) (m : MemoryStore) : Prop
    extends s.WellLinked m where
  issued : ∀ {t}, s.Stores m t → t.id ∈ ids
  listed : ∀ {t body}, s.Stores m t → t.session? = some body →
    ∀ id, id ∈ body.services.keys ∨ id ∈ body.proxies.keys → id ∈ ids

/-- The links of a store lead back and forth between tickets and their parents, and parents are
older. The identifiers are those of all tickets that were ever issued. -/
structure Forest (s : Sealing) (ids : List String) (m : MemoryStore) : Prop
    extends s.WellLinked m where
  issued : ∀ {t}, s.Stores m t → t.id ∈ ids
  listed : ∀ {t body}, s.Stores m t → t.session? = some body →
    ∀ id, id ∈ body.services.keys ∨ id ∈ body.proxies.keys → id ∈ ids
  parented : ∀ {t parent}, s.Stores m t → t.parent? = some parent →
    ∃ u body, s.Stores m u ∧ u.id = parent ∧ u.session? = some body ∧ body.Lists t
  older : ∃ rank : String → Nat, ∀ {t parent}, s.Stores m t → t.parent? = some parent →
    rank parent < rank t.id

theorem Forest.accounted (hm : s.Forest ids m) : s.Accounted ids m :=
  { hm.toWellLinked with issued := hm.issued, listed := hm.listed }

theorem not_stores_empty : ¬s.Stores .empty t := by
  intro h
  obtain ⟨-, stored, hget, -⟩ := resolve_eq_some_iff.1 h
  cases hget

/-- The empty store is a forest without trees. -/
theorem forest_empty : s.Forest [] .empty where
  entry hget := by cases hget
  hold hget := by cases hget
  services ht := absurd ht not_stores_empty
  proxies ht := absurd ht not_stores_empty
  issued ht := absurd ht not_stores_empty
  listed ht := absurd ht not_stores_empty
  parented ht := absurd ht not_stores_empty
  older := ⟨fun _ => 0, fun ht => absurd ht not_stores_empty⟩

/-- What an issued identifier leads to is not changed by a ticket with a new identifier. -/
theorem Puts.resolve_of_fresh (h : s.Puts m t m₁) (ht : Text.isBlank t.id = false)
    (hsep : s.Separates (· ∈ t.id :: ids)) (hfresh : t.id ∉ ids) {id : String} (hid : id ∈ ids) :
    s.resolve m₁ id = s.resolve m id := by
  rw [h.resolve_eq ht, if_neg]
  intro hkey
  have heq : id = t.id := hsep _ _ (List.mem_cons_of_mem _ hid) List.mem_cons_self hkey
  exact hfresh (heq ▸ hid)

theorem Puts.stores_of_fresh (h : s.Puts m t m₁) (ht : Text.isBlank t.id = false)
    (hsep : s.Separates (· ∈ t.id :: ids)) (hfresh : t.id ∉ ids) {u : Ticket} (hid : u.id ∈ ids)
    (hu : s.Stores m u) : s.Stores m₁ u := by
  rw [Stores, h.resolve_of_fresh ht hsep hfresh hid]
  exact hu

/-- What is stored after a session was opened is the session, or was stored before. -/
theorem Puts.cases_of_stores (h : s.Puts m t m₁) (ht : Text.isBlank t.id = false) {u : Ticket}
    (hu : s.Stores m₁ u) : u = t ∨ s.Stores m u :=
  ((h.stores_iff ht).1 hu).imp id And.right

/-- A new session lists nothing yet, so every link is between tickets from before. -/
theorem Accounted.open (hm : s.Accounted ids m) {root : Session} (h : s.Puts m (.session root) m₁)
    (hblank : Text.isBlank root.id = false) (hsep : s.Separates (· ∈ root.id :: ids))
    (hfresh : root.id ∉ ids) (hservices : root.services = .empty)
    (hproxies : root.proxies = .empty) :
    s.Accounted (root.id :: ids) m₁ := by
  refine { h.keyed hblank hm.toKeyed with
    services := ?_, proxies := ?_, issued := ?_, listed := ?_ }
  · intro u body hu hbody child hchild
    rcases h.cases_of_stores hblank hu with rfl | hu
    · obtain rfl := Option.some.inj hbody
      rw [hservices] at hchild
      cases hchild
    · rw [h.resolve_of_fresh hblank hsep hfresh (hm.listed hu hbody child (.inl hchild))]
      exact hm.services hu hbody child hchild
  · intro u body hu hbody child hchild
    rcases h.cases_of_stores hblank hu with rfl | hu
    · obtain rfl := Option.some.inj hbody
      rw [hproxies] at hchild
      cases hchild
    · rw [h.resolve_of_fresh hblank hsep hfresh (hm.listed hu hbody child (.inr hchild))]
      exact hm.proxies hu hbody child hchild
  · intro u hu
    rcases h.cases_of_stores hblank hu with rfl | hu
    · exact List.mem_cons_self
    · exact List.mem_cons_of_mem _ (hm.issued hu)
  · intro u body hu hbody id hid
    rcases h.cases_of_stores hblank hu with rfl | hu
    · obtain rfl := Option.some.inj hbody
      rw [hservices, hproxies] at hid
      rcases hid with hid | hid <;> cases hid
    · exact List.mem_cons_of_mem _ (hm.listed hu hbody id hid)

/-- A new session is a tree of its own. -/
theorem Forest.open (hm : s.Forest ids m) {root : Session} (h : s.Puts m (.session root) m₁)
    (hblank : Text.isBlank root.id = false) (hsep : s.Separates (· ∈ root.id :: ids))
    (hfresh : root.id ∉ ids) (hservices : root.services = .empty)
    (hproxies : root.proxies = .empty) :
    s.Forest (root.id :: ids) m₁ := by
  have hopened := hm.accounted.open h hblank hsep hfresh hservices hproxies
  obtain ⟨rank, hrank⟩ := hm.older
  refine { hopened.toWellLinked with
    issued := hopened.issued, listed := hopened.listed, parented := ?_, older := ⟨rank, ?_⟩ }
  · intro u parent hu hparent
    rcases h.cases_of_stores hblank hu with rfl | hu
    · cases hparent
    · obtain ⟨v, body, hv, hid, hbody, hlists⟩ := hm.parented hu hparent
      exact ⟨v, body, h.stores_of_fresh hblank hsep hfresh (hm.issued hv) hv, hid, hbody, hlists⟩
  · intro u parent hu hparent
    rcases h.cases_of_stores hblank hu with rfl | hu
    · cases hparent
    · exact hrank hu hparent

/-! ### Granting a ticket -/

/-- A new ticket was issued from a stored one: it was put into the store, and then the ticket that
it came from was put again, with one entry more. -/
structure Grants (s : Sealing) (ids : List String) (m : MemoryStore) (t : Ticket)
    (body body' : Session) (child : Ticket) (m₂ : MemoryStore) : Prop where
  stores : s.Stores m t
  granting : t.session? = some body
  parent : child.parent? = some t.id
  childless : ∀ {own}, child.session? = some own → own.services = .empty ∧ own.proxies = .empty
  nonblank : Text.isBlank child.id = false
  fresh : child.id ∉ ids
  id_eq : body'.id = body.id
  services : ∀ id, id ∈ body'.services.keys ↔
    id ∈ body.services.keys ∨ id = child.id ∧ ∃ st, child = .service st
  proxies : ∀ id, id ∈ body'.proxies.keys ↔
    id ∈ body.proxies.keys ∨ id = child.id ∧ ∃ p, child = .proxy p
  puts : ∃ m₁, s.Puts m child m₁ ∧ s.Puts m₁ (t.mapSession fun _ => body') m₂

namespace Grants

variable {body' : Session} {child u : Ticket}

theorem id_updated (h : s.Grants ids m t body body' child m₂) :
    (t.mapSession fun _ => body').id = t.id :=
  Ticket.id_mapSession_of_id_eq (h.id_eq.trans (Ticket.id_of_session? h.granting))

theorem session?_updated (h : s.Grants ids m t body body' child m₂) :
    (t.mapSession fun _ => body').session? = some body' := by
  rw [Ticket.session?_mapSession, h.granting]
  rfl

/-- The updated ticket is listed where it was listed before. -/
theorem lists_updated (h : s.Grants ids m t body body' child m₂) {own : Session}
    (hlists : own.Lists t) : own.Lists (t.mapSession fun _ => body') := by
  cases t with
  | proxy p =>
    have hid : ProxyTicket.id { p with body := body' } = p.id := h.id_updated
    show ProxyTicket.id { p with body := body' } ∈ own.proxies.keys
    rw [hid]
    exact hlists
  | service st => exact hlists
  | session t => exact hlists
  | sealed t => exact hlists

/-- The new ticket and the updated one are found; other identifiers lead where they led before. -/
theorem resolve_eq (h : s.Grants ids m t body body' child m₂) (hm : s.Accounted ids m)
    (hsep : s.Separates (· ∈ child.id :: ids)) {id : String} (hid : id ∈ child.id :: ids) :
    s.resolve m₂ id = if id = t.id then .ok (some (t.mapSession fun _ => body'))
      else if id = child.id then .ok (some child) else s.resolve m id := by
  obtain ⟨m₁, hchild, hupdated⟩ := h.puts
  have hblank : Text.isBlank (t.mapSession fun _ => body').id = false := by
    rw [h.id_updated]
    exact (resolve_eq_some_iff.1 h.stores).1
  have ht : t.id ∈ child.id :: ids := List.mem_cons_of_mem _ (hm.issued h.stores)
  rw [hupdated.resolve_eq hblank, hchild.resolve_eq h.nonblank, h.id_updated]
  simp only [hsep.key_inj hid ht, hsep.key_inj hid List.mem_cons_self]

/-- The updated ticket is found in the place of the one that it came from. -/
theorem stores_updated (h : s.Grants ids m t body body' child m₂) (hm : s.Accounted ids m)
    (hsep : s.Separates (· ∈ child.id :: ids)) : s.Stores m₂ (t.mapSession fun _ => body') := by
  rw [Stores, h.id_updated, h.resolve_eq hm hsep (List.mem_cons_of_mem _ (hm.issued h.stores)),
    if_pos rfl]

theorem ne_of_mem (h : s.Grants ids m t body body' child m₂) {id : String} (hid : id ∈ ids) :
    id ≠ child.id := by
  rintro rfl
  exact h.fresh hid

theorem stores_child (h : s.Grants ids m t body body' child m₂) (hm : s.Accounted ids m)
    (hsep : s.Separates (· ∈ child.id :: ids)) : s.Stores m₂ child := by
  rw [Stores, h.resolve_eq hm hsep List.mem_cons_self,
    if_neg (h.ne_of_mem (hm.issued h.stores)).symm, if_pos rfl]

/-- What is stored afterwards is the updated ticket, the new ticket, or another one from before. -/
theorem cases_of_stores (h : s.Grants ids m t body body' child m₂) (hu : s.Stores m₂ u) :
    u = (t.mapSession fun _ => body') ∨ u = child ∨ s.Stores m u ∧ u.id ≠ t.id := by
  obtain ⟨m₁, hchild, hupdated⟩ := h.puts
  have hblank : Text.isBlank (t.mapSession fun _ => body').id = false := by
    rw [h.id_updated]
    exact (resolve_eq_some_iff.1 h.stores).1
  rcases (hupdated.stores_iff hblank).1 hu with rfl | ⟨hkey, hu⟩
  · exact .inl rfl
  · rcases (hchild.stores_iff h.nonblank).1 hu with rfl | ⟨-, hu⟩
    · exact .inr (.inl rfl)
    · refine .inr (.inr ⟨hu, fun hid => hkey ?_⟩)
      rw [h.id_updated, hid]

/-- Every other ticket stays as it is. -/
theorem stores_of_ne (h : s.Grants ids m t body body' child m₂) (hm : s.Accounted ids m)
    (hsep : s.Separates (· ∈ child.id :: ids)) (hu : s.Stores m u) (hid : u.id ≠ t.id) :
    s.Stores m₂ u := by
  have hmem := hm.issued hu
  rw [Stores, h.resolve_eq hm hsep (List.mem_cons_of_mem _ hmem), if_neg hid,
    if_neg (h.ne_of_mem hmem)]
  exact hu

/-- A ticket from before is still there, or in its place the updated one, which lists no less. -/
theorem exists_stores (h : s.Grants ids m t body body' child m₂) (hm : s.Accounted ids m)
    (hsep : s.Separates (· ∈ child.id :: ids)) {own : Session} {listed : Ticket} (hu : s.Stores m u)
    (hown : u.session? = some own) (hlists : own.Lists listed) :
    ∃ v own', s.Stores m₂ v ∧ v.id = u.id ∧ v.session? = some own' ∧ own'.Lists listed := by
  -- Only the updated ticket changed, and it lists what it listed before.
  by_cases hid : u.id = t.id
  · refine ⟨_, body', h.stores_updated hm hsep, h.id_updated.trans hid.symm,
      h.session?_updated, ?_⟩
    have heq : u = t := by
      have hresolve : s.resolve m t.id = .ok (some u) := hid ▸ hu
      have hstores : s.resolve m t.id = .ok (some t) := h.stores
      exact Option.some.inj (Except.ok.inj (hresolve.symm.trans hstores))
    subst heq
    obtain rfl := Option.some.inj (hown.symm.trans h.granting)
    cases listed with
    | service st => exact (h.services st.id).2 (.inl hlists)
    | proxy p => exact (h.proxies p.id).2 (.inl hlists)
    | session _ => cases hlists
    | sealed _ => cases hlists
  · exact ⟨u, own, h.stores_of_ne hm hsep hu hid, rfl, hown, hlists⟩

/-- The new ticket was put first, and then the one that it came from was put again. -/
theorem exists_rewrites (h : s.Grants ids m t body body' child m₂) (hm : s.Accounted ids m)
    (hsep : s.Separates (· ∈ child.id :: ids)) :
    ∃ m₁, s.Puts m child m₁ ∧ s.Rewrites m₁ t body' m₂ := by
  obtain ⟨m₁, hchild, hupdated⟩ := h.puts
  have hstores : s.Stores m₁ t :=
    hchild.stores_of_fresh h.nonblank hsep h.fresh (hm.issued h.stores) h.stores
  exact ⟨m₁, hchild, hstores, ⟨body, h.granting⟩,
    h.id_eq.trans (Ticket.id_of_session? h.granting), hupdated⟩

variable {x parent : String}

theorem service_link (h : s.Grants ids m t body body' child m₂) (hm : s.Accounted ids m)
    (hsep : s.Separates (· ∈ child.id :: ids)) (hx : x ∈ ids)
    (hlink : s.resolve m x = .ok Option.none ∨
      ∃ st, s.resolve m x = .ok (some (.service st)) ∧ st.parent = parent) :
    s.resolve m₂ x = .ok Option.none ∨
      ∃ st, s.resolve m₂ x = .ok (some (.service st)) ∧ st.parent = parent := by
  obtain ⟨m₁, hchild, hrewrites⟩ := h.exists_rewrites hm hsep
  rw [← hchild.resolve_of_fresh h.nonblank hsep h.fresh hx] at hlink
  exact hrewrites.service_link hlink

theorem proxy_link (h : s.Grants ids m t body body' child m₂) (hm : s.Accounted ids m)
    (hsep : s.Separates (· ∈ child.id :: ids)) (hx : x ∈ ids)
    (hlink : s.resolve m x = .ok Option.none ∨
      ∃ p, s.resolve m x = .ok (some (.proxy p)) ∧ p.parent = parent) :
    s.resolve m₂ x = .ok Option.none ∨
      ∃ p, s.resolve m₂ x = .ok (some (.proxy p)) ∧ p.parent = parent := by
  obtain ⟨m₁, hchild, hrewrites⟩ := h.exists_rewrites hm hsep
  rw [← hchild.resolve_of_fresh h.nonblank hsep h.fresh hx] at hlink
  exact hrewrites.proxy_link hlink

/-- A new ticket is linked to the one that it came from. -/
theorem accounted (h : s.Grants ids m t body body' child m₂) (hm : s.Accounted ids m)
    (hsep : s.Separates (· ∈ child.id :: ids)) : s.Accounted (child.id :: ids) m₂ := by
  have htid : t.id ∈ ids := hm.issued h.stores
  have hchild : s.resolve m₂ child.id = .ok (some child) := h.stores_child hm hsep
  have hkeyed : s.Keyed m₂ := by
    obtain ⟨m₁, hputs, hrewrites⟩ := h.exists_rewrites hm hsep
    exact hrewrites.keyed (hputs.keyed h.nonblank hm.toKeyed)
  refine { hkeyed with services := ?_, proxies := ?_, issued := ?_, listed := ?_ }
  · intro u own hu hown x hx
    rcases h.cases_of_stores hu with rfl | rfl | ⟨hu, -⟩
    · obtain rfl := Option.some.inj (h.session?_updated.symm.trans hown)
      rw [h.id_updated]
      rcases (h.services x).1 hx with hx | ⟨rfl, st, rfl⟩
      · refine h.service_link hm hsep (hm.listed h.stores h.granting x (.inl hx)) ?_
        exact hm.services h.stores h.granting x hx
      · exact .inr ⟨st, hchild, Option.some.inj h.parent⟩
    · rw [(h.childless hown).1] at hx
      cases hx
    · exact h.service_link hm hsep (hm.listed hu hown x (.inl hx)) (hm.services hu hown x hx)
  · intro u own hu hown x hx
    rcases h.cases_of_stores hu with rfl | rfl | ⟨hu, -⟩
    · obtain rfl := Option.some.inj (h.session?_updated.symm.trans hown)
      rw [h.id_updated]
      rcases (h.proxies x).1 hx with hx | ⟨rfl, p, rfl⟩
      · refine h.proxy_link hm hsep (hm.listed h.stores h.granting x (.inr hx)) ?_
        exact hm.proxies h.stores h.granting x hx
      · exact .inr ⟨p, hchild, Option.some.inj h.parent⟩
    · rw [(h.childless hown).2] at hx
      cases hx
    · exact h.proxy_link hm hsep (hm.listed hu hown x (.inr hx)) (hm.proxies hu hown x hx)
  · intro u hu
    rcases h.cases_of_stores hu with rfl | rfl | ⟨hu, -⟩
    · rw [h.id_updated]
      exact List.mem_cons_of_mem _ htid
    · exact List.mem_cons_self
    · exact List.mem_cons_of_mem _ (hm.issued hu)
  · intro u own hu hown x hx
    rcases h.cases_of_stores hu with rfl | rfl | ⟨hu, -⟩
    · obtain rfl := Option.some.inj (h.session?_updated.symm.trans hown)
      rw [h.services, h.proxies] at hx
      rcases hx with (hx | ⟨rfl, -⟩) | (hx | ⟨rfl, -⟩)
      · exact List.mem_cons_of_mem _ (hm.listed h.stores h.granting x (.inl hx))
      · exact List.mem_cons_self
      · exact List.mem_cons_of_mem _ (hm.listed h.stores h.granting x (.inr hx))
      · exact List.mem_cons_self
    · rw [(h.childless hown).1, (h.childless hown).2] at hx
      rcases hx with hx | hx <;> cases hx
    · exact List.mem_cons_of_mem _ (hm.listed hu hown x hx)

/-- A new ticket is a new leaf of its tree. -/
theorem forest (h : s.Grants ids m t body body' child m₂) (hm : s.Forest ids m)
    (hsep : s.Separates (· ∈ child.id :: ids)) : s.Forest (child.id :: ids) m₂ := by
  have haccounted := h.accounted hm.accounted hsep
  have htid : t.id ∈ ids := hm.issued h.stores
  obtain ⟨rank, hrank⟩ := hm.older
  refine { haccounted.toWellLinked with
    issued := haccounted.issued, listed := haccounted.listed, parented := ?_
    older := ⟨fun id => if id = child.id then rank t.id + 1 else rank id, ?_⟩ }
  · -- The parent of the new ticket lists it; every other ticket is listed where it was.
    have hold : ∀ {u parent}, s.Stores m u → u.parent? = some parent → ∀ {listed : Ticket},
        (∀ {own : Session}, own.Lists u → own.Lists listed) →
        ∃ v own, s.Stores m₂ v ∧ v.id = parent ∧ v.session? = some own ∧ own.Lists listed := by
      intro u parent hu hparent listed hsame
      obtain ⟨v, own, hv, hid, hown, hlists⟩ := hm.parented hu hparent
      obtain ⟨v', own', hv', hid', hown', hlists'⟩ :=
        h.exists_stores hm.accounted hsep hv hown (hsame hlists)
      exact ⟨v', own', hv', hid'.trans hid, hown', hlists'⟩
    intro u parent hu hparent
    rcases h.cases_of_stores hu with rfl | rfl | ⟨hu, -⟩
    · rw [Ticket.parent?_mapSession] at hparent
      exact hold h.stores hparent fun hlists => h.lists_updated hlists
    · obtain rfl := Option.some.inj (hparent.symm.trans h.parent)
      refine ⟨_, body', h.stores_updated hm.accounted hsep, h.id_updated, h.session?_updated, ?_⟩
      cases u with
      | service st => exact (h.services _).2 (.inr ⟨rfl, st, rfl⟩)
      | proxy p => exact (h.proxies _).2 (.inr ⟨rfl, p, rfl⟩)
      | session _ => cases hparent
      | sealed _ => cases hparent
    · exact hold hu hparent fun hlists => hlists
  · -- The new ticket is younger than its parent, and no ticket from before came from it.
    have hold : ∀ {u parent}, s.Stores m u → u.parent? = some parent →
        (if parent = child.id then rank t.id + 1 else rank parent) <
          if u.id = child.id then rank t.id + 1 else rank u.id := by
      intro u parent hu hparent
      obtain ⟨v, -, hv, rfl, -⟩ := hm.parented hu hparent
      rw [if_neg (h.ne_of_mem (hm.issued hv)), if_neg (h.ne_of_mem (hm.issued hu))]
      exact hrank hu hparent
    intro u parent hu hparent
    rcases h.cases_of_stores hu with rfl | rfl | ⟨hu, -⟩
    · rw [Ticket.parent?_mapSession] at hparent
      rw [h.id_updated]
      exact hold h.stores hparent
    · obtain rfl := Option.some.inj (hparent.symm.trans h.parent)
      show (if t.id = u.id then rank t.id + 1 else rank t.id) <
        if u.id = u.id then rank t.id + 1 else rank u.id
      rw [if_neg (h.ne_of_mem htid), if_pos rfl]
      exact Nat.lt_succ_self _
    · exact hold hu hparent

end Grants

end Sealing

/-! ### What an issuer fills -/

namespace Registry

variable {r : Registry MemoryStore} {lifetimes : Lifetimes} {ids : List String}
  {issuer issuer' : Issuer} {w w₁ w₂ : World MemoryStore} {id : String} {t : Ticket}
  {body body' : Session} {service : Service} {now : Instant} {random : List UInt8}

/-- What is issued is put, and then what it came from. -/
theorem puts_of_issued {child : Ticket} (hr : r.InMemory) (hs : r.sealing.Opens)
    (hchild : child.isSealed = false) (granting : t.session? = some body)
    (added : r.add child w = .ok () w₁)
    (updated : r.update (t.mapSession fun _ => body') w₁ = .ok () w₂) :
    ∃ m₁, r.sealing.Puts w.store (child.mapDates r.sealing.redate) m₁ ∧
      r.sealing.Puts m₁ (t.mapSession fun _ => body'.mapDates r.sealing.redate) w₂.store := by
  have hsealed : (t.mapSession fun _ => body').isSealed = false := by
    rw [Ticket.isSealed_mapSession]
    exact Ticket.isSealed_of_session? granting
  have hupdated := puts_of_update hr hs hsealed updated
  rw [Ticket.mapDates_mapSession_of_session? granting] at hupdated
  exact ⟨w₁.store, puts_of_add hr hs hchild added, hupdated⟩

/-- Issuing a service ticket grants it, with its dates as they come back. -/
theorem grants_of_grantService {child : ServiceTicket} {fromNewLogin : Bool} (hr : r.InMemory)
    (hs : r.sealing.Opens) (hm : r.sealing.Keyed w.store) (found : r.find id w = .ok (some t) w)
    (granting : t.session? = some body)
    (granted : issuer.grantService body service fromNewLogin now random = (child, body', issuer'))
    (added : r.add (.service child) w = .ok () w₁)
    (updated : r.update (t.mapSession fun _ => body') w₁ = .ok () w₂) (hfresh : child.id ∉ ids) :
    r.sealing.Grants ids w.store t body (body'.mapDates r.sealing.redate)
      (.service (child.mapDates r.sealing.redate)) w₂.store := by
  have hputs := puts_of_issued hr hs rfl granting added updated
  have hstores := (hm.stores_of_resolve (resolve_of_find hr found)).1
  have hparent := congrArg some (Ticket.id_of_session? granting)
  obtain ⟨rfl, hrest⟩ := Prod.mk.inj granted
  obtain ⟨rfl, rfl⟩ := Prod.mk.inj hrest
  refine ⟨hstores, granting, hparent, ?_, Issuer.isBlank_idOf _ _ _, hfresh, rfl, fun x => ?_,
    fun x => ?_, hputs⟩
  · intro own hown
    cases hown
  · simp only [Session.services_mapDates, Session.grant, TextMap.mem_keys_insert, Ticket.id,
      ServiceTicket.id_mapDates, Ticket.service.injEq, exists_eq', and_true]
    exact or_comm
  · simp only [Session.proxies_mapDates, Session.grant, reduceCtorEq, exists_false, and_false,
      or_false]

/-- Issuing a proxy-granting ticket grants it, with its dates as they come back. -/
theorem grants_of_grantProxy {child : ProxyTicket} (hr : r.InMemory)
    (hs : r.sealing.Opens) (hm : r.sealing.Keyed w.store) (found : r.find id w = .ok (some t) w)
    (granting : t.session? = some body)
    (granted : issuer.grantProxy body service now random = (child, body', issuer'))
    (added : r.add (.proxy child) w = .ok () w₁)
    (updated : r.update (t.mapSession fun _ => body') w₁ = .ok () w₂) (hfresh : child.id ∉ ids) :
    r.sealing.Grants ids w.store t body (body'.mapDates r.sealing.redate)
      (.proxy (child.mapDates r.sealing.redate)) w₂.store := by
  have hputs := puts_of_issued hr hs rfl granting added updated
  have hstores := (hm.stores_of_resolve (resolve_of_find hr found)).1
  have hparent := congrArg some (Ticket.id_of_session? granting)
  obtain ⟨rfl, hrest⟩ := Prod.mk.inj granted
  obtain ⟨rfl, rfl⟩ := Prod.mk.inj hrest
  refine ⟨hstores, granting, hparent, ?_, Issuer.isBlank_idOf _ _ _, hfresh, rfl, fun x => ?_,
    fun x => ?_, hputs⟩
  · intro own hown
    obtain rfl := Option.some.inj hown
    exact ⟨rfl, rfl⟩
  · simp only [Session.services_mapDates, Session.addProxy, reduceCtorEq, exists_false, and_false,
      or_false]
  · simp only [Session.proxies_mapDates, Session.addProxy, TextMap.mem_keys_insert, Ticket.id,
      ProxyTicket.id_mapDates, Ticket.proxy.injEq, exists_eq', and_true]
    exact or_comm

/-- Whatever an issuer did to an empty store, the store is a forest. -/
theorem Issues.forest (hr : r.InMemory) (hs : r.sealing.Reliable)
    (h : r.Issues lifetimes ids issuer w) (hlength : ids.length < 2 ^ 64)
    (hsep : r.sealing.Separates (· ∈ ids)) : r.sealing.Forest ids w.store := by
  induction h with
  | start => exact Sealing.forest_empty
  | openSession before opened added ih =>
    have hm := ih (Nat.lt_of_succ_lt hlength) (hsep.mono fun _ => List.mem_cons_of_mem _)
    have hfresh := before.not_mem_ids hlength .session
    obtain ⟨rfl, rfl⟩ := Prod.mk.inj opened
    have hputs := puts_of_add hr hs.opens rfl added
    have hopened := hm.open hputs (Issuer.isBlank_idOf _ _ _) hsep (hfresh _) rfl rfl
    exact hopened
  | grantService before found granting granted added updated ih =>
    have hm := ih (Nat.lt_of_succ_lt hlength) (hsep.mono fun _ => List.mem_cons_of_mem _)
    have hfresh := before.not_mem_ids hlength .service
    refine (grants_of_grantService hr hs.opens hm.toKeyed found granting granted added updated
      ?_).forest hm hsep
    obtain ⟨rfl, -⟩ := Prod.mk.inj granted
    exact hfresh _
  | grantProxy before found granting granted added updated ih =>
    have hm := ih (Nat.lt_of_succ_lt hlength) (hsep.mono fun _ => List.mem_cons_of_mem _)
    have hfresh := before.not_mem_ids hlength .proxy
    refine (grants_of_grantProxy hr hs.opens hm.toKeyed found granting granted added updated
      ?_).forest hm hsep
    obtain ⟨rfl, -⟩ := Prod.mk.inj granted
    exact hfresh _

end Registry

end SignOn
