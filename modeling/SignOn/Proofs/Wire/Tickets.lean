import SignOn.Proofs.Ticket.Dates
import SignOn.Proofs.Wire.Laws
import SignOn.Wire.Ticket

/-!
# The laws of the stored format of tickets

Every type that is stored, from services up to tickets of any kind, has a layout with laws: whatever
was serialized is deserialized, however the parts are nested, with its dates as they are read back.

## Main results

* `Layout.rereads_authentication` - authentications
* `Layout.rereads_ticket` - tickets of any kind
-/

namespace SignOn.Layout

open Instant (reread)

/-! ### Authentications -/

theorem lawful_service : service.Lawful := lawful_text.iso (fun _ => rfl) fun _ h => h

theorem lawful_attributeValue : attributeValue.Lawful where
  read_write a rest hfits := by
    cases a with
    | single value =>
      have htag := readVariant_littleEndian (show 0 < 2 by decide) (by decide)
        (text.write value ++ rest)
      simp only [attributeValue, List.append_assoc, htag, lawful_text.read_write value rest hfits,
        Except.map, id_eq]
    | multi values =>
      have htag := readVariant_littleEndian (show 1 < 2 by decide) (by decide)
        ((list text).write values ++ rest)
      simp only [attributeValue, List.append_assoc, htag,
        lawful_text.list.read_write values rest hfits, Except.map, id_eq]
  fits_of_read h := by
    simp only [attributeValue] at h
    split at h
    next => cases h
    next =>
      obtain ⟨value, hvalue, rfl⟩ := exists_read_of_map h
      exact lawful_text.fits_of_read hvalue
    next =>
      obtain ⟨values, hvalues, rfl⟩ := exists_read_of_map h
      exact lawful_text.list.fits_of_read hvalues
  reread_of_read _ := rfl
  write_reread _ := rfl

theorem lawful_attributes : attributes.Lawful := lawful_attributeValue.textMap

theorem lawful_principal : principal.Lawful :=
  (lawful_text.pair lawful_attributes).iso (fun _ => rfl) fun _ h => h

theorem lawful_credentialSummary : credentialSummary.Lawful :=
  (lawful_text.pair lawful_text).iso (fun _ => rfl) fun _ h => h

theorem lawful_handlerReport : handlerReport.Lawful :=
  (lawful_text.pair (lawful_credentialSummary.pair
    (lawful_principal.option.pair lawful_text.list))).iso (fun _ => rfl) fun _ h => h

theorem rereads_authentication : authentication.Rereads (Authentication.mapDates reread) :=
  (Rereads.pair lawful_principal (Rereads.pair lawful_credentialSummary.list
    (Rereads.pair lawful_handlerReport.textMap (Rereads.pair lawful_text.textMap
      (Rereads.pair lawful_attributes rereads_instant))))).record
    (fun _ => rfl) fun _ => rfl

/-! ### Tickets -/

theorem lawful_seconds : seconds.Lawful := lawful_word.iso (fun _ => rfl) fun _ h => h

theorem lawful_expirationPolicy : expirationPolicy.Lawful where
  read_write policy rest _ := by
    cases policy with
    | never => rfl
    | always => rfl
    | after lifetime =>
      have htag := readVariant_littleEndian (show 2 < 3 by decide) (by decide)
        (seconds.write lifetime ++ rest)
      simp only [expirationPolicy, List.append_assoc, htag,
        lawful_seconds.read_write lifetime rest rfl, Except.map, id_eq]
  fits_of_read _ := rfl
  reread_of_read _ := rfl
  write_reread _ := rfl

theorem rereads_session : session.Rereads (Session.mapDates reread) :=
  (Rereads.pair lawful_text (Rereads.pair rereads_instant (Rereads.pair lawful_expirationPolicy
    (Rereads.pair rereads_authentication
      (Rereads.pair lawful_service.textMap lawful_service.textMap))))).record
    (fun _ => rfl) fun _ => rfl

theorem rereads_serviceTicket : serviceTicket.Rereads (ServiceTicket.mapDates reread) :=
  (Rereads.pair lawful_text (Rereads.pair rereads_instant (Rereads.pair lawful_expirationPolicy
    (Rereads.pair lawful_text (Rereads.pair lawful_service lawful_flag))))).record
    (fun _ => rfl) fun _ => rfl

theorem rereads_proxyTicket : proxyTicket.Rereads (ProxyTicket.mapDates reread) :=
  (Rereads.pair rereads_session (Rereads.pair lawful_text lawful_service)).record
    (fun _ => rfl) fun _ => rfl

theorem lawful_sealedTicket : sealedTicket.Lawful :=
  (lawful_text.pair lawful_byte.list).iso (fun _ => rfl) fun _ h => h

/-- After the number of its kind, the ticket itself is read. -/
theorem cases_of_read_ticket {bytes rest : List UInt8} {t : Ticket}
    (h : ticket.read bytes = .ok (t, rest)) :
    (∃ s middle, session.read middle = .ok (s, rest) ∧ t = .session s) ∨
    (∃ s middle, serviceTicket.read middle = .ok (s, rest) ∧ t = .service s) ∨
    (∃ p middle, proxyTicket.read middle = .ok (p, rest) ∧ t = .proxy p) ∨
    ∃ e middle, sealedTicket.read middle = .ok (e, rest) ∧ t = .sealed e := by
  simp only [ticket] at h
  split at h
  next => cases h
  all_goals
    obtain ⟨_, ht, rfl⟩ := exists_read_of_map h
  · exact .inl ⟨_, _, ht, rfl⟩
  · exact .inr (.inl ⟨_, _, ht, rfl⟩)
  · exact .inr (.inr (.inl ⟨_, _, ht, rfl⟩))
  · exact .inr (.inr (.inr ⟨_, _, ht, rfl⟩))

/-- Tickets of any kind are read back, and what is read as a ticket can be written. -/
theorem rereads_ticket : ticket.Rereads (Ticket.mapDates reread) where
  read_write t rest hfits := by
    cases t with
    | session t =>
      have htag := readVariant_littleEndian (show 0 < 4 by decide) (by decide)
        (session.write t ++ rest)
      simp only [ticket, List.append_assoc, htag, rereads_session.read_write t rest hfits,
        Except.map, Ticket.mapDates]
    | service t =>
      have htag := readVariant_littleEndian (show 1 < 4 by decide) (by decide)
        (serviceTicket.write t ++ rest)
      simp only [ticket, List.append_assoc, htag, rereads_serviceTicket.read_write t rest hfits,
        Except.map, Ticket.mapDates]
    | proxy t =>
      have htag := readVariant_littleEndian (show 2 < 4 by decide) (by decide)
        (proxyTicket.write t ++ rest)
      simp only [ticket, List.append_assoc, htag, rereads_proxyTicket.read_write t rest hfits,
        Except.map, Ticket.mapDates]
    | sealed t =>
      have htag := readVariant_littleEndian (show 3 < 4 by decide) (by decide)
        (sealedTicket.write t ++ rest)
      simp only [ticket, List.append_assoc, htag, lawful_sealedTicket.read_write t rest hfits,
        Except.map, Ticket.mapDates]
  fits_of_read h := by
    obtain ⟨t, middle, ht, rfl⟩ | ⟨t, middle, ht, rfl⟩ | ⟨t, middle, ht, rfl⟩ |
      ⟨t, middle, ht, rfl⟩ := cases_of_read_ticket h
    · exact rereads_session.fits_of_read ht
    · exact rereads_serviceTicket.fits_of_read ht
    · exact rereads_proxyTicket.fits_of_read ht
    · exact lawful_sealedTicket.fits_of_read ht
  reread_of_read h := by
    obtain ⟨t, middle, ht, rfl⟩ | ⟨t, middle, ht, rfl⟩ | ⟨t, middle, ht, rfl⟩ |
      ⟨t, middle, ht, rfl⟩ := cases_of_read_ticket h
    · exact congrArg Ticket.session (rereads_session.reread_of_read ht)
    · exact congrArg Ticket.service (rereads_serviceTicket.reread_of_read ht)
    · exact congrArg Ticket.proxy (rereads_proxyTicket.reread_of_read ht)
    · rfl
  write_reread t := by
    cases t with
    | session t => exact congrArg (littleEndian 4 0 ++ ·) (rereads_session.write_reread t)
    | service t => exact congrArg (littleEndian 4 1 ++ ·) (rereads_serviceTicket.write_reread t)
    | proxy t => exact congrArg (littleEndian 4 2 ++ ·) (rereads_proxyTicket.write_reread t)
    | sealed t => rfl

/-! ### Tickets with other dates -/

theorem fits_session_mapDates (f : Instant → Instant) (t : Session) :
    session.fits (t.mapDates f) = session.fits t := by
  simp only [session, authentication, Layout.iso, Layout.pair, Session.mapDates,
    Authentication.mapDates, fits_instant]

/-- Dates are short texts, whichever they are. -/
theorem fits_mapDates (f : Instant → Instant) (t : Ticket) :
    ticket.fits (t.mapDates f) = ticket.fits t := by
  cases t with
  | session t => exact fits_session_mapDates f t
  | service t =>
    simp only [ticket, Ticket.mapDates, serviceTicket, Layout.iso, Layout.pair,
      ServiceTicket.mapDates, fits_instant]
  | proxy t =>
    simp only [ticket, Ticket.mapDates, proxyTicket, Layout.iso, Layout.pair, ProxyTicket.mapDates,
      fits_session_mapDates]
  | sealed t => rfl

/-! ### Tickets that list less -/

theorem fits_erase {α : Type} {layout : Layout α} {m : TextMap α}
    (h : (textMap layout).fits m = true) (key : String) :
    (textMap layout).fits (m.erase key) = true := by
  obtain ⟨hlength, hall⟩ := Bool.and_eq_true_iff.1 h
  refine Bool.and_eq_true_iff.2 ⟨?_, ?_⟩
  · have hle : (m.erase key).entries.length ≤ m.entries.length := List.length_filter_le _ _
    exact decide_eq_true (Nat.lt_of_le_of_lt hle (of_decide_eq_true hlength))
  · rw [List.all_eq_true] at hall ⊢
    intro e he
    exact hall e (List.mem_filter.1 he).1

theorem fits_session_of_fits_proxies {t : Session} {proxies : TextMap Service}
    (h : session.fits t = true) (hproxies : (textMap service).fits proxies = true) :
    session.fits { t with proxies := proxies } = true := by
  simp only [session, Layout.iso, Layout.pair, Bool.and_eq_true] at h ⊢
  obtain ⟨hid, hcreated, hpolicy, hauthentication, hservices, -⟩ := h
  exact ⟨hid, hcreated, hpolicy, hauthentication, hservices, hproxies⟩

theorem fits_proxies {t : Session} (h : session.fits t = true) :
    (textMap service).fits t.proxies = true := by
  simp only [session, Layout.iso, Layout.pair, Bool.and_eq_true] at h
  exact h.2.2.2.2.2

/-- A session that lists less still fits. -/
theorem fits_removeProxy {t : Session} (h : session.fits t = true) (id : String) :
    session.fits (t.removeProxy id) = true :=
  fits_session_of_fits_proxies h (fits_erase (fits_proxies h) id)

theorem fits_clearProxies {t : Session} (h : session.fits t = true) :
    session.fits t.clearProxies = true :=
  fits_session_of_fits_proxies h rfl

theorem fits_mapSession {change : Session → Session}
    (hchange : ∀ t, session.fits t = true → session.fits (change t) = true) {t : Ticket}
    (h : ticket.fits t = true) : ticket.fits (t.mapSession change) = true := by
  cases t with
  | session t => exact hchange t h
  | proxy t =>
    obtain ⟨hbody, hrest⟩ := Bool.and_eq_true_iff.1 h
    exact Bool.and_eq_true_iff.2 ⟨hchange t.body hbody, hrest⟩
  | service t => exact h
  | sealed t => exact h

end SignOn.Layout
