import SignOn.Proofs.Registry.Deletion
import SignOn.Proofs.Registry.Logout

/-!
# Links that agree

A ticket names the one that it came from, and that one lists the ticket with its service. The two
are written one after the other, and deletions change the one and the other. Still they agree after
every step of a service that issues tickets from what is stored, looks tickets up, counts them, and
deletes any of them: what is listed leads to nothing or to a ticket that names the lister, and a
ticket whose parent is still there is listed by it.

This needs more than the two directions: that an identifier which is issued was never in use before,
neither for a ticket, nor in a list, nor as that of a parent.

## Main definitions

* `Session.Records` - a session lists a ticket, with the service of the ticket
* `Sealing.Reciprocal` - the links of a store agree
* `Sealing.Ledger` - they agree, and are between identifiers that were issued
* `Registry.Step`, `Registry.Serves` - what a service does to an empty store

## Main results

* `Sealing.survivesDeletion_ledger` - links still agree after deletions
* `Registry.Step.ledger` - links still agree after a step
* `Registry.reciprocal_of_serves` - links agree after every run
-/

namespace SignOn

/-- Whether a session lists a ticket as one that came from it, with the service of the ticket. -/
def Session.Records (body : Session) : Ticket → Prop
  | .service t => body.services.get? t.id = some t.service
  | .proxy t => body.proxies.get? t.id = some t.proxiedBy
  | .session _ | .sealed _ => False

/-- What is recorded of a ticket does not depend on its body. -/
theorem Session.Records.mapSession {body own : Session} {t : Ticket} (h : own.Records t)
    (hid : body.id = t.id) : own.Records (t.mapSession fun _ => body) := by
  cases t with
  | proxy p =>
    show own.proxies.get? body.id = some p.proxiedBy
    rw [hid]
    exact h
  | _ => exact h

/-- Striking a proxy-granting ticket off the list leaves the other tickets there. -/
theorem Session.Records.removeProxy {own : Session} {t : Ticket} {id : String} (h : own.Records t)
    (hne : t.id ≠ id) : (own.removeProxy id).Records t := by
  cases t with
  | proxy p => exact (TextMap.get?_erase_of_ne _ hne).trans h
  | _ => exact h

/-- Nor does it depend on dates, neither those of the ticket nor those of the session. -/
theorem Session.Records.mapDates {own : Session} {t : Ticket} (h : own.Records t)
    (f : Instant → Instant) : (own.mapDates f).Records t := by
  cases t <;> exact h

theorem Session.Records.grant {own : Session} {t : Ticket} {id : String} (h : own.Records t)
    (hne : t.id ≠ id) (service : Service) : (own.grant id service).Records t := by
  cases t with
  | service st => exact (TextMap.get?_insert_of_ne _ _ hne).trans h
  | _ => exact h

theorem Session.Records.addProxy {own : Session} {t : Ticket} {id : String} (h : own.Records t)
    (hne : t.id ≠ id) (service : Service) : (own.addProxy id service).Records t := by
  cases t with
  | proxy p => exact (TextMap.get?_insert_of_ne _ _ hne).trans h
  | _ => exact h

namespace Sealing

variable {s : Sealing} {m m' m₁ m₂ : MemoryStore} {ids : List String} {t u child : Ticket}
  {body body' : Session} {id : String}

/-- If the parent of a ticket is found, it lists the ticket with its service. -/
def Recorded (s : Sealing) (m : MemoryStore) (t : Ticket) : Prop :=
  ∀ parent found, t.parent? = some parent → s.resolve m parent = .ok (some found) →
    ∃ body, found.session? = some body ∧ body.Records t

/-- The links of a store agree. What a ticket lists leads to nothing, or to a ticket of the right
kind that names the lister as its parent; and a ticket whose parent is found is listed there with
its own service. -/
structure Reciprocal (s : Sealing) (m : MemoryStore) : Prop extends s.WellLinked m where
  recorded : ∀ {t}, s.Stores m t → s.Recorded m t

/-- The links of a store agree, and they are between identifiers that were issued. -/
structure Ledger (s : Sealing) (ids : List String) (m : MemoryStore) : Prop
    extends s.Accounted ids m where
  recorded : ∀ {t}, s.Stores m t → s.Recorded m t
  parents : ∀ {t parent}, s.Stores m t → t.parent? = some parent → parent ∈ ids

theorem Ledger.reciprocal (hm : s.Ledger ids m) : s.Reciprocal m :=
  { hm.toWellLinked with recorded := hm.recorded }

theorem ledger_empty : s.Ledger [] .empty where
  toAccounted := forest_empty.accounted
  recorded ht := absurd ht not_stores_empty
  parents ht := absurd ht not_stores_empty

/-! ### Without one key -/

theorem resolve_delete (m : MemoryStore) (key id : String) :
    s.resolve (m.delete key) id = if s.key id = key then .ok Option.none else s.resolve m id := by
  by_cases hkey : s.key id = key
  · rw [if_pos hkey]
    exact resolve_of_get?_eq_none (by rw [MemoryStore.get?_delete, if_pos hkey])
  · rw [if_neg hkey]
    exact resolve_congr (by rw [MemoryStore.get?_delete, if_neg hkey])

theorem stores_delete_iff {key : String} :
    s.Stores (m.delete key) t ↔ s.key t.id ≠ key ∧ s.Stores m t := by
  rw [Stores, resolve_delete]
  by_cases hkey : s.key t.id = key
  · rw [if_pos hkey]
    exact iff_of_false (fun h => by cases h) fun h => h.1 hkey
  · rw [if_neg hkey]
    exact (and_iff_right hkey).symm

/-- A store without a key has no link that it did not have before. -/
theorem Accounted.delete (hm : s.Accounted ids m) (key : String) :
    s.Accounted ids (m.delete key) := by
  have hkeyed : s.Keyed (m.delete key) :=
    ⟨fun h => hm.entry (MemoryStore.get?_of_get?_delete h),
      fun h => hm.hold (MemoryStore.get?_of_get?_delete h)⟩
  -- What was listed leads where it led before, or to nothing now.
  refine { hkeyed with services := ?_, proxies := ?_, issued := ?_, listed := ?_ }
  · intro t body ht hbody child hchild
    rw [resolve_delete]
    split
    · exact .inl rfl
    · exact hm.services (stores_delete_iff.1 ht).2 hbody child hchild
  · intro t body ht hbody child hchild
    rw [resolve_delete]
    split
    · exact .inl rfl
    · exact hm.proxies (stores_delete_iff.1 ht).2 hbody child hchild
  · exact fun ht => hm.issued (stores_delete_iff.1 ht).2
  · exact fun ht => hm.listed (stores_delete_iff.1 ht).2

theorem Recorded.delete (h : s.Recorded m t) (key : String) : s.Recorded (m.delete key) t := by
  intro parent found hparent hfound
  rw [resolve_delete] at hfound
  split at hfound
  · cases hfound
  · exact h parent found hparent hfound

theorem Ledger.delete (hm : s.Ledger ids m) (key : String) : s.Ledger ids (m.delete key) where
  toAccounted := hm.toAccounted.delete key
  recorded ht := (hm.recorded (stores_delete_iff.1 ht).2).delete key
  parents ht := hm.parents (stores_delete_iff.1 ht).2

/-! ### Another body -/

namespace Rewrites

variable (h : s.Rewrites m t body' m')

include h

/-- A ticket that lists no more than before has no link that it did not have before. -/
theorem accounted (hm : s.Accounted ids m) (hbody : t.session? = some body)
    (hservices : ∀ id ∈ body'.services.keys, id ∈ body.services.keys)
    (hproxies : ∀ id ∈ body'.proxies.keys, id ∈ body.proxies.keys) : s.Accounted ids m' := by
  refine { h.keyed hm.toKeyed with services := ?_, proxies := ?_, issued := ?_, listed := ?_ }
  · intro u own hu hown child hchild
    rcases h.cases_of_stores hu with rfl | ⟨hu, -⟩
    · obtain rfl := Option.some.inj (h.session?_updated.symm.trans hown)
      rw [h.id_updated]
      exact h.service_link (hm.services h.stores hbody child (hservices child hchild))
    · exact h.service_link (hm.services hu hown child hchild)
  · intro u own hu hown child hchild
    rcases h.cases_of_stores hu with rfl | ⟨hu, -⟩
    · obtain rfl := Option.some.inj (h.session?_updated.symm.trans hown)
      rw [h.id_updated]
      exact h.proxy_link (hm.proxies h.stores hbody child (hproxies child hchild))
    · exact h.proxy_link (hm.proxies hu hown child hchild)
  · intro u hu
    rcases h.cases_of_stores hu with rfl | ⟨hu, -⟩
    · rw [h.id_updated]
      exact hm.issued h.stores
    · exact hm.issued hu
  · intro u own hu hown id hid
    rcases h.cases_of_stores hu with rfl | ⟨hu, -⟩
    · obtain rfl := Option.some.inj (h.session?_updated.symm.trans hown)
      exact hm.listed h.stores hbody id (hid.imp (hservices id) (hproxies id))
    · exact hm.listed hu hown id hid

/-- A ticket is still recorded if the new body records it in the case that the old one did. -/
theorem recorded (hbody : t.session? = some body) (hkeep : body.Records u → body'.Records u)
    (hu : s.Recorded m u) : s.Recorded m' u := by
  intro parent found hparent hfound
  rw [h.resolve_eq] at hfound
  split at hfound
  next hkey =>
    -- The parent is the ticket with the new body.
    obtain rfl := Option.some.inj (Except.ok.inj hfound)
    obtain ⟨own, hown, hrecords⟩ := hu parent t hparent ((resolve_of_key_eq hkey).trans h.stores)
    obtain rfl := Option.some.inj (hbody.symm.trans hown)
    exact ⟨body', h.session?_updated, hkeep hrecords⟩
  next => exact hu parent found hparent hfound

/-- The ticket with the new body is recorded where the old one was. -/
theorem recorded_updated (ht : s.Recorded m' t) :
    s.Recorded m' (t.mapSession fun _ => body') := by
  intro parent found hparent hfound
  rw [Ticket.parent?_mapSession] at hparent
  obtain ⟨own, hown, hrecords⟩ := ht parent found hparent hfound
  exact ⟨own, hown, hrecords.mapSession h.id_eq⟩

end Rewrites

/-- Striking a proxy-granting ticket off a list hides it from its parent; deleting it then makes the
links agree again, whatever becomes of the dates. -/
theorem Ledger.strike (hm : s.Ledger ids m) {parent : String} {f : Instant → Instant}
    (hfound : s.resolve m parent = .ok (some t)) (hbody : t.session? = some body)
    (hputs : s.Puts m ((t.mapDates f).mapSession (·.removeProxy id)) m') :
    s.Ledger ids (m'.delete (s.key id)) := by
  rw [Ticket.mapSession_mapDates_of_session? hbody] at hputs
  have hrewrites : s.Rewrites m t ((body.mapDates f).removeProxy id) m' :=
    ⟨(hm.stores_of_resolve hfound).1, ⟨body, hbody⟩, show body.id = t.id from
      Ticket.id_of_session? hbody, hputs⟩
  have haccounted := hrewrites.accounted hm.toAccounted hbody (fun _ hid => hid) fun x hx =>
    ((TextMap.mem_keys_erase _ id x).1 hx).2
  -- What is not deleted has another identifier than the ticket that was struck off.
  have hkept : ∀ {u}, u.id ≠ id → s.Recorded m u → s.Recorded m' u := fun hne hu =>
    hrewrites.recorded hbody (fun hrecords => (hrecords.mapDates f).removeProxy hne) hu
  refine { haccounted.delete (s.key id) with recorded := ?_, parents := ?_ }
  · intro u hu
    obtain ⟨hkey, hu⟩ := stores_delete_iff.1 hu
    have hne : u.id ≠ id := fun heq => hkey (congrArg s.key heq)
    refine Recorded.delete ?_ _
    rcases hrewrites.cases_of_stores hu with rfl | ⟨hu, -⟩
    · rw [hrewrites.id_updated] at hne
      exact hrewrites.recorded_updated (hkept hne (hm.recorded hrewrites.stores))
    · exact hkept hne (hm.recorded hu)
  · intro u parent hu hparent
    rcases hrewrites.cases_of_stores (stores_delete_iff.1 hu).2 with rfl | ⟨hu, -⟩
    · rw [Ticket.parent?_mapSession] at hparent
      exact hm.parents hrewrites.stores hparent
    · exact hm.parents hu hparent

/-- The links agree after any deletion. -/
theorem survivesDeletion_ledger (s : Sealing) (ids : List String) :
    s.SurvivesDeletion fun _ m => s.Ledger ids m where
  congr := by
    rintro - ⟨entries, writes⟩ ⟨-, writes'⟩ rfl hm
    exact
      { entry := hm.entry, hold := hm.hold, services := hm.services, proxies := hm.proxies,
        issued := hm.issued, listed := hm.listed, recorded := hm.recorded, parents := hm.parents }
  delete key hm := hm.delete key
  strike hm hfound hbody hputs := hm.strike hfound hbody hputs

/-! ### Issued tickets -/

/-- What comes from an issued ticket is recorded as before, after a ticket with a new identifier was
put. -/
theorem Puts.recorded_of_fresh (h : s.Puts m t m₁) (ht : Text.isBlank t.id = false)
    (hsep : s.Separates (· ∈ t.id :: ids)) (hfresh : t.id ∉ ids) (hu : s.Recorded m u)
    (hparents : ∀ {parent}, u.parent? = some parent → parent ∈ ids) : s.Recorded m₁ u := by
  intro parent found hparent hfound
  rw [h.resolve_of_fresh ht hsep hfresh (hparents hparent)] at hfound
  exact hu parent found hparent hfound

theorem Ledger.open (hm : s.Ledger ids m) {root : Session} (h : s.Puts m (.session root) m₁)
    (hblank : Text.isBlank root.id = false) (hsep : s.Separates (· ∈ root.id :: ids))
    (hfresh : root.id ∉ ids) (hservices : root.services = .empty)
    (hproxies : root.proxies = .empty) :
    s.Ledger (root.id :: ids) m₁ := by
  refine { hm.toAccounted.open h hblank hsep hfresh hservices hproxies with
    recorded := ?_, parents := ?_ }
  · intro u hu
    rcases h.cases_of_stores hblank hu with rfl | hu
    · -- A session names no parent.
      intro parent found hparent
      cases hparent
    · exact h.recorded_of_fresh hblank hsep hfresh (hm.recorded hu) (hm.parents hu)
  · intro u parent hu hparent
    rcases h.cases_of_stores hblank hu with rfl | hu
    · cases hparent
    · exact List.mem_cons_of_mem _ (hm.parents hu hparent)

/-- A new ticket is recorded by the one that it came from, and all others where they were. -/
theorem Grants.ledger (h : s.Grants ids m t body body' child m₂) (hm : s.Ledger ids m)
    (hsep : s.Separates (· ∈ child.id :: ids)) (hchild : body'.Records child)
    (hkeep : ∀ {u : Ticket}, u.id ≠ child.id → body.Records u → body'.Records u) :
    s.Ledger (child.id :: ids) m₂ := by
  obtain ⟨m₁, hputs, hrewrites⟩ := h.exists_rewrites hm.toAccounted hsep
  -- What was stored before has another identifier and another parent than the new ticket.
  have hold : ∀ {u}, s.Stores m u → s.Recorded m₂ u := fun hu =>
    hrewrites.recorded h.granting (hkeep (h.ne_of_mem (hm.issued hu)))
      (hputs.recorded_of_fresh h.nonblank hsep h.fresh (hm.recorded hu) (hm.parents hu))
  refine { h.accounted hm.toAccounted hsep with recorded := ?_, parents := ?_ }
  · intro u hu
    rcases h.cases_of_stores hu with rfl | rfl | ⟨hu, -⟩
    · exact hrewrites.recorded_updated (hold h.stores)
    · -- The parent of the new ticket is the updated one.
      intro parent found hparent hfound
      obtain rfl := Option.some.inj (h.parent.symm.trans hparent)
      rw [hrewrites.resolve_eq, if_pos rfl] at hfound
      obtain rfl := Option.some.inj (Except.ok.inj hfound)
      exact ⟨body', h.session?_updated, hchild⟩
    · exact hold hu
  · intro u parent hu hparent
    rcases h.cases_of_stores hu with rfl | rfl | ⟨hu, -⟩
    · rw [Ticket.parent?_mapSession] at hparent
      exact List.mem_cons_of_mem _ (hm.parents h.stores hparent)
    · obtain rfl := Option.some.inj (h.parent.symm.trans hparent)
      exact List.mem_cons_of_mem _ (hm.issued h.stores)
    · exact List.mem_cons_of_mem _ (hm.parents hu hparent)

end Sealing

/-! ### A service at work -/

namespace Registry

/-- One step of a service: it opens a session, issues a ticket from what is stored and stores both,
or performs an operation that gives the registry no ticket. The identifier is that of the issued
ticket. -/
inductive Step (r : Registry MemoryStore) :
    Issuer → World MemoryStore → Option String → Issuer → World MemoryStore → Prop where
  | openSession {issuer issuer' : Issuer} {w w' : World MemoryStore} {session : Session}
      {authentication : Authentication} {now : Instant} {random : List UInt8}
      (opened : issuer.openSession authentication now random = (session, issuer'))
      (added : r.add (.session session) w = .ok () w') :
      Step r issuer w (some session.id) issuer' w'
  | grantService {issuer issuer' : Issuer} {w w₁ w₂ : World MemoryStore} {id : String} {t : Ticket}
      {body body' : Session} {child : ServiceTicket} {service : Service} {fromNewLogin : Bool}
      {now : Instant} {random : List UInt8}
      (found : r.find id w = .ok (some t) w) (granting : t.session? = some body)
      (granted : issuer.grantService body service fromNewLogin now random = (child, body', issuer'))
      (added : r.add (.service child) w = .ok () w₁)
      (updated : r.update (t.mapSession fun _ => body') w₁ = .ok () w₂) :
      Step r issuer w (some child.id) issuer' w₂
  | grantProxy {issuer issuer' : Issuer} {w w₁ w₂ : World MemoryStore} {id : String} {t : Ticket}
      {body body' : Session} {child : ProxyTicket} {service : Service} {now : Instant}
      {random : List UInt8}
      (found : r.find id w = .ok (some t) w) (granting : t.session? = some body)
      (granted : issuer.grantProxy body service now random = (child, body', issuer'))
      (added : r.add (.proxy child) w = .ok () w₁)
      (updated : r.update (t.mapSession fun _ => body') w₁ = .ok () w₂) :
      Step r issuer w (some child.id) issuer' w₂
  | perform {issuer : Issuer} {w : World MemoryStore} (op : Operation)
      (given : op.ticket? = none) :
      Step r issuer w none issuer ((op.run r).after w)

/-- What a service makes of an empty store, step by step. The identifiers are those of all issued
tickets, the last one first. -/
inductive Serves (r : Registry MemoryStore) (lifetimes : Lifetimes) :
    List String → Issuer → World MemoryStore → Prop where
  | start (tape : Tape) (metrics : Metrics) :
      Serves r lifetimes [] (.start lifetimes) ⟨.empty, tape, metrics⟩
  | step {ids : List String} {issuer issuer' : Issuer} {w w' : World MemoryStore}
      {issued : Option String} (before : Serves r lifetimes ids issuer w)
      (next : Step r issuer w issued issuer' w') :
      Serves r lifetimes (issued.toList ++ ids) issuer' w'

variable {r : Registry MemoryStore} {lifetimes : Lifetimes} {ids : List String}
  {issuer issuer' : Issuer} {w w' : World MemoryStore} {issued : Option String}

/-- An issuer alone is a service that never looks up or deletes anything. -/
theorem Issues.serves (h : r.Issues lifetimes ids issuer w) : r.Serves lifetimes ids issuer w := by
  induction h with
  | start tape metrics => exact .start tape metrics
  | openSession before opened added ih => exact ih.step (.openSession opened added)
  | grantService before found granting granted added updated ih =>
    exact ih.step (.grantService found granting granted added updated)
  | grantProxy before found granting granted added updated ih =>
    exact ih.step (.grantProxy found granting granted added updated)

/-- A step issues the next identifier, or none. -/
theorem Step.cases_issued (h : r.Step issuer w issued issuer' w') :
    issued = none ∧ issuer' = issuer ∨
      ∃ kind random, issued = some (issuer.nextId kind random) ∧ issuer' = issuer.advance := by
  cases h with
  | openSession opened added =>
    obtain ⟨rfl, rfl⟩ := Prod.mk.inj opened
    exact .inr ⟨.session, _, rfl, rfl⟩
  | grantService found granting granted added updated =>
    obtain ⟨rfl, hrest⟩ := Prod.mk.inj granted
    obtain ⟨rfl, rfl⟩ := Prod.mk.inj hrest
    exact .inr ⟨.service, _, rfl, rfl⟩
  | grantProxy found granting granted added updated =>
    obtain ⟨rfl, hrest⟩ := Prod.mk.inj granted
    obtain ⟨rfl, rfl⟩ := Prod.mk.inj hrest
    exact .inr ⟨.proxy, _, rfl, rfl⟩
  | perform op given => exact .inl ⟨rfl, rfl⟩

theorem Serves.numbered (h : r.Serves lifetimes ids issuer w) (hlength : ids.length < 2 ^ 64) :
    issuer.Numbered ids := by
  induction h with
  | start => exact ⟨rfl, fun id hid => by cases hid⟩
  | step before next ih =>
    rcases next.cases_issued with ⟨rfl, rfl⟩ | ⟨kind, random, rfl, rfl⟩
    · exact ih hlength
    · exact (ih (Nat.lt_of_succ_lt hlength)).next kind random hlength

/-- As long as the numbers do not start over, no identifier is issued twice. -/
theorem Serves.nodup (h : r.Serves lifetimes ids issuer w) (hlength : ids.length < 2 ^ 64) :
    ids.Nodup := by
  induction h with
  | start => exact List.nodup_nil
  | step before next ih =>
    rcases next.cases_issued with ⟨rfl, rfl⟩ | ⟨kind, random, rfl, rfl⟩
    · exact ih hlength
    · have hbefore := Nat.lt_of_succ_lt hlength
      exact List.nodup_cons.2 ⟨(before.numbered hbefore).nextId_not_mem hlength kind random,
        ih hbefore⟩

/-- The links agree after every step. -/
theorem Step.ledger (h : r.Step issuer w issued issuer' w') (hr : r.InMemory)
    (hquiet : r.ScansQuietly) (hs : r.sealing.Opens) (hm : r.sealing.Ledger ids w.store)
    (hfresh : ∀ id ∈ issued, id ∉ ids) (hsep : r.sealing.Separates (· ∈ issued.toList ++ ids)) :
    r.sealing.Ledger (issued.toList ++ ids) w'.store := by
  cases h with
  | openSession opened added =>
    have hfresh := hfresh _ rfl
    obtain ⟨rfl, rfl⟩ := Prod.mk.inj opened
    have hputs := puts_of_add hr hs rfl added
    have hopened := hm.open hputs (Issuer.isBlank_idOf _ _ _) hsep hfresh rfl rfl
    exact hopened
  | grantService found granting granted added updated =>
    have hgrants := grants_of_grantService hr hs hm.toKeyed found granting granted added updated
      (hfresh _ rfl)
    refine hgrants.ledger hm hsep ?_ fun hne hrecords => ?_
    all_goals
      obtain ⟨rfl, hrest⟩ := Prod.mk.inj granted
      obtain ⟨rfl, rfl⟩ := Prod.mk.inj hrest
    · exact TextMap.get?_insert_self _ _ _
    · exact (hrecords.grant hne _).mapDates _
  | grantProxy found granting granted added updated =>
    have hgrants := grants_of_grantProxy hr hs hm.toKeyed found granting granted added updated
      (hfresh _ rfl)
    refine hgrants.ledger hm hsep ?_ fun hne hrecords => ?_
    all_goals
      obtain ⟨rfl, hrest⟩ := Prod.mk.inj granted
      obtain ⟨rfl, rfl⟩ := Prod.mk.inj hrest
    · exact TextMap.get?_insert_self _ _ _
    · exact (hrecords.addProxy hne _).mapDates _
  | perform op given =>
    have hsurvives := r.sealing.survivesDeletion_ledger ids
    have hkeeps := hsurvives.run hr hs hquiet op fun t ht => by
      rw [given] at ht
      cases ht
    obtain ⟨-, hafter⟩ := hkeeps.after ⟨0, hm⟩
    exact hafter

theorem Serves.ledger (h : r.Serves lifetimes ids issuer w) (hr : r.InMemory)
    (hquiet : r.ScansQuietly) (hs : r.sealing.Opens) (hids : ids.Nodup)
    (hsep : r.sealing.Separates (· ∈ ids)) : r.sealing.Ledger ids w.store := by
  induction h with
  | start => exact Sealing.ledger_empty
  | step before next ih =>
    obtain ⟨-, hbefore, hdisjoint⟩ := List.nodup_append.1 hids
    -- The new identifier is none of those before, and those before are different, too.
    have hm := ih hbefore (hsep.mono fun _ => List.mem_append_right _)
    refine next.ledger hr hquiet hs hm (fun id hid hmem => ?_) hsep
    exact hdisjoint id (Option.mem_toList.2 hid) id hmem rfl

/-- Whatever a service did to an empty store, the links agree: what is listed leads to nothing or to
a ticket that names the lister as its parent, and every ticket whose parent is found is listed there
with its own service. The numbers of identifiers start over after the last one of sixty-four bits;
up to there no identifier is issued twice, and beyond it that is assumed. -/
theorem reciprocal_of_serves (hr : r.InMemory) (hquiet : r.ScansQuietly) (hs : r.sealing.Opens)
    (hrun : r.Serves lifetimes ids issuer w) (hids : ids.length < 2 ^ 64 ∨ ids.Nodup)
    (hfree : r.sealing.isActive = true → Sha512.CollisionFree (· ∈ ids)) :
    r.sealing.Reciprocal w.store := by
  have hnodup : ids.Nodup := hids.elim hrun.nodup fun hnodup => hnodup
  have hsep := Sealing.separates_of_collisionFree hfree
  exact (hrun.ledger hr hquiet hs hnodup hsep).reciprocal

/-- A session lists the proxy-granting ticket that came from it, and after the deletion of that
ticket the links agree again. -/
theorem reciprocal_of_serves_oneProxy :
    let random := List.replicate Issuer.randomLength 0
    let ids := [Issuer.idOf .proxy 2 random, Issuer.idOf .session 1 random]
    ∃ (w : World MemoryStore) (root : Session) (p : ProxyTicket),
      Serves ⟨.memory, .none⟩ .usual ids ⟨.usual, 2⟩ w ∧
      Sealing.none.Stores w.store (.proxy p) ∧ root.Records (.proxy p) ∧
      Sealing.none.Reciprocal w.store ∧
      Sealing.none.Reciprocal (((Operation.delete p.id).run ⟨.memory, .none⟩).after w).store := by
  intro random ids
  have hinactive : Sealing.none.isActive = false := rfl
  let now : Instant := ⟨⟨2024, 1, 1, by decide⟩, 0, 0, by decide, by decide⟩
  obtain ⟨w, root, p, hissues, -, -, hparent, hp, hroot, -⟩ :=
    exists_session_and_proxy (r := ⟨.memory, .none⟩) (inMemory_memory _) hinactive .usual
      ⟨⟨"alice", .empty⟩, [], .empty, .empty, .empty, now⟩ ⟨"app"⟩ now random
  have hagree : ∀ {w}, Serves ⟨.memory, .none⟩ .usual ids ⟨.usual, 2⟩ w →
      Sealing.none.Reciprocal w.store := fun hrun =>
    reciprocal_of_serves (inMemory_memory _) (scansQuietly_memory _)
      (Sealing.opens_of_inactive hinactive) hrun (.inl (by decide)) fun hactive => by cases hactive
  have hdeleted := hissues.serves.step (.perform (.delete p.id) rfl)
  have hbefore := hagree hissues.serves
  -- The session is the parent of the ticket, so it records it.
  have hfound : Sealing.none.resolve w.store p.parent = .ok (some (.session root)) := by
    rw [hparent]
    exact hroot
  obtain ⟨body, hbody, hrecords⟩ := hbefore.recorded hp p.parent _ rfl hfound
  obtain rfl := Option.some.inj hbody
  exact ⟨w, root, p, hissues.serves, hp, hrecords, hbefore, hagree hdeleted⟩

end Registry

end SignOn
