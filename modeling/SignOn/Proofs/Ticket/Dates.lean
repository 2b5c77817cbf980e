import SignOn.Proofs.Calendar.Written
import SignOn.Ticket.Basic

/-!
# The dates of a ticket

A ticket tells when it was created, and one with a session also when its user logged in. Changing
these dates changes nothing that links tickets: identifiers, kinds, and what a session lists.

## Main definitions

* `Ticket.mapDates` - the ticket with its dates changed
* `Ticket.dates` - the dates of a ticket

## Main results

* `Ticket.mapDates_eq_self_iff` - a ticket stays as it is exactly if all of its dates do
* `Ticket.mapDates_reread_eq_self_iff` - which tickets are read back unchanged
-/

namespace SignOn

variable {f g : Instant → Instant}

/-- The authentication with its date changed. -/
def Authentication.mapDates (f : Instant → Instant) (a : Authentication) : Authentication :=
  { a with date := f a.date }

/-! ### Sessions -/

namespace Session

/-- The session with its dates changed. -/
def mapDates (f : Instant → Instant) (s : Session) : Session :=
  { s with created := f s.created, authentication := s.authentication.mapDates f }

@[simp] theorem id_mapDates (f : Instant → Instant) (s : Session) : (s.mapDates f).id = s.id := rfl

@[simp] theorem services_mapDates (f : Instant → Instant) (s : Session) :
    (s.mapDates f).services = s.services := rfl

@[simp] theorem proxies_mapDates (f : Instant → Instant) (s : Session) :
    (s.mapDates f).proxies = s.proxies := rfl

@[simp] theorem mapDates_clearProxies (f : Instant → Instant) (s : Session) :
    s.clearProxies.mapDates f = (s.mapDates f).clearProxies := rfl

theorem mapDates_eq_self_iff {s : Session} :
    s.mapDates f = s ↔
      f s.created = s.created ∧ f s.authentication.date = s.authentication.date := by
  obtain ⟨id, created, policy, ⟨principal, credentials, successes, failures, attributes, date⟩,
    services, proxies⟩ := s
  simp [mapDates, Authentication.mapDates]

theorem mapDates_of_fixed (h : ∀ i, f i = i) (s : Session) : s.mapDates f = s :=
  mapDates_eq_self_iff.2 ⟨h _, h _⟩

/-- Sessions that differ in dates only have the same links. -/
theorem links_eq {s s' : Session} (h : s'.mapDates f = s.mapDates f) :
    s'.id = s.id ∧ s'.services = s.services ∧ s'.proxies = s.proxies := by
  simp only [mapDates, mk.injEq] at h
  obtain ⟨hid, -, -, -, hservices, hproxies⟩ := h
  exact ⟨hid, hservices, hproxies⟩

end Session

/-! ### Tickets -/

/-- The service ticket with its date changed. -/
def ServiceTicket.mapDates (f : Instant → Instant) (t : ServiceTicket) : ServiceTicket :=
  { t with created := f t.created }

/-- The proxy-granting ticket with the dates of its body changed. -/
def ProxyTicket.mapDates (f : Instant → Instant) (t : ProxyTicket) : ProxyTicket :=
  { t with body := t.body.mapDates f }

@[simp] theorem ServiceTicket.id_mapDates (f : Instant → Instant) (t : ServiceTicket) :
    (t.mapDates f).id = t.id := rfl

@[simp] theorem ProxyTicket.id_mapDates (f : Instant → Instant) (t : ProxyTicket) :
    (t.mapDates f).id = t.id := rfl

theorem ProxyTicket.mapDates_of_fixed (h : ∀ i, f i = i) (t : ProxyTicket) : t.mapDates f = t := by
  rw [mapDates, Session.mapDates_of_fixed h]

/-- Proxy-granting tickets that differ in dates only have the same links. -/
theorem ProxyTicket.links_eq {t t' : ProxyTicket} (h : t'.mapDates f = t.mapDates f) :
    t'.parent = t.parent ∧ t'.id = t.id ∧ t'.body.services = t.body.services := by
  simp only [mapDates, mk.injEq] at h
  obtain ⟨hbody, hparent, -⟩ := h
  obtain ⟨hid, hservices, -⟩ := Session.links_eq hbody
  exact ⟨hparent, hid, hservices⟩

namespace Ticket

/-- The ticket with its dates changed; a sealed ticket does not tell any. -/
def mapDates (f : Instant → Instant) : Ticket → Ticket
  | session t => session (t.mapDates f)
  | service t => service (t.mapDates f)
  | proxy t => proxy (t.mapDates f)
  | sealed t => sealed t

/-- The dates of a ticket. -/
def dates : Ticket → List Instant
  | session t => [t.created, t.authentication.date]
  | service t => [t.created]
  | proxy t => [t.body.created, t.body.authentication.date]
  | sealed _ => []

@[simp] theorem id_mapDates (f : Instant → Instant) (t : Ticket) : (t.mapDates f).id = t.id := by
  cases t <;> rfl

@[simp] theorem kind_mapDates (f : Instant → Instant) (t : Ticket) :
    (t.mapDates f).kind = t.kind := by
  cases t <;> rfl

@[simp] theorem isSealed_mapDates (f : Instant → Instant) (t : Ticket) :
    (t.mapDates f).isSealed = t.isSealed := by
  cases t <;> rfl

@[simp] theorem session?_mapDates (f : Instant → Instant) (t : Ticket) :
    (t.mapDates f).session? = t.session?.map (Session.mapDates f) := by
  cases t <;> rfl

theorem mapDates_mapDates (f g : Instant → Instant) (t : Ticket) :
    (t.mapDates f).mapDates g = t.mapDates (g ∘ f) := by
  cases t <;> rfl

theorem bind_service?_mapDates (f : Instant → Instant) (found : Option Ticket) :
    (found.map (mapDates f)).bind service? =
      (found.bind service?).map (ServiceTicket.mapDates f) := by
  obtain _ | t := found
  · rfl
  · cases t <;> rfl

theorem bind_proxy?_mapDates (f : Instant → Instant) (found : Option Ticket) :
    (found.map (mapDates f)).bind proxy? = (found.bind proxy?).map (ProxyTicket.mapDates f) := by
  obtain _ | t := found
  · rfl
  · cases t <;> rfl

/-- Striking off a proxy-granting ticket and changing the dates may come in either order. -/
@[simp] theorem mapDates_removeProxy (f : Instant → Instant) (t : Ticket) (id : String) :
    (t.mapSession (·.removeProxy id)).mapDates f =
      (t.mapDates f).mapSession (·.removeProxy id) := by
  cases t <;> rfl

@[simp] theorem mapDates_clearProxies (f : Instant → Instant) (t : Ticket) :
    (t.mapSession Session.clearProxies).mapDates f =
      (t.mapDates f).mapSession Session.clearProxies := by
  cases t <;> rfl

/-- A ticket that gets another session has the dates of that session. -/
theorem mapDates_mapSession_of_session? {t : Ticket} {body : Session} (h : t.session? = some body)
    (f : Instant → Instant) (body' : Session) :
    (t.mapSession fun _ => body').mapDates f = t.mapSession fun _ => body'.mapDates f := by
  cases t with
  | session _ => rfl
  | proxy _ => rfl
  | service _ => cases h
  | sealed _ => cases h

theorem mapSession_mapDates_of_session? {t : Ticket} {body : Session} (h : t.session? = some body)
    (f : Instant → Instant) (change : Session → Session) :
    (t.mapDates f).mapSession change = t.mapSession fun _ => change (body.mapDates f) := by
  cases t with
  | session _ => obtain rfl := Option.some.inj h; rfl
  | proxy _ => obtain rfl := Option.some.inj h; rfl
  | service _ => cases h
  | sealed _ => cases h

/-- A ticket stays as it is exactly if all of its dates do. -/
theorem mapDates_eq_self_iff {t : Ticket} : t.mapDates f = t ↔ ∀ i ∈ t.dates, f i = i := by
  obtain s | s | p | e := t
  · simp [mapDates, dates, Session.mapDates_eq_self_iff]
  · obtain ⟨id, created, policy, parent, service, fromNewLogin⟩ := s
    simp [mapDates, dates, ServiceTicket.mapDates]
  · obtain ⟨body, parent, proxiedBy⟩ := p
    simp [mapDates, dates, ProxyTicket.mapDates, Session.mapDates_eq_self_iff]
  · simp [mapDates, dates]

theorem mapDates_of_fixed (h : ∀ i, f i = i) (t : Ticket) : t.mapDates f = t :=
  mapDates_eq_self_iff.2 fun i _ => h i

@[simp] theorem mapDates_self : mapDates (fun i => i) = fun t => t :=
  funext (mapDates_of_fixed fun _ => rfl)

theorem mapDates_congr {t : Ticket} (h : ∀ i ∈ t.dates, f i = g i) :
    t.mapDates f = t.mapDates g := by
  cases t with
  | session s => simp_all [mapDates, dates, Session.mapDates, Authentication.mapDates]
  | service s => simp_all [mapDates, dates, ServiceTicket.mapDates]
  | proxy p => simp_all [mapDates, dates, ProxyTicket.mapDates, Session.mapDates,
      Authentication.mapDates]
  | sealed _ => rfl

/-- Read back unchanged are the tickets without a leap second within a minute. -/
theorem mapDates_reread_eq_self_iff {t : Ticket} :
    t.mapDates .reread = t ↔ ∀ i ∈ t.dates, i.OnMinute := by
  simp only [mapDates_eq_self_iff, Instant.reread_eq_self_iff]

end Ticket

end SignOn
