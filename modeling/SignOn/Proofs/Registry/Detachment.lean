import SignOn.Proofs.Registry.Resumption

/-!
# Deleting a proxy-granting ticket

A proxy-granting ticket goes with its service tickets, and whatever it came from is read, changed and
put again in between. That may be a session or another proxy-granting ticket, which keep everything
but the entry of the deleted ticket; or a service ticket, or nothing at all, and then nothing is put.

## Main definitions

* `Sealing.keysVia` - the storage keys of a proxy-granting ticket and of its service tickets
* `Sealing.Lister` - the ticket with a list that a proxy-granting ticket came from
* `Sealing.Detaches` - a store without a proxy-granting ticket, which is struck off that list

## Main results

* `Registry.deleteProxy_run_of_no_lister` - where there is no list, the ticket only goes
* `Registry.deleteProxy_detaches` - the ticket goes and is struck off
* `Registry.delete_proxy_exact` - deleting a proxy-granting ticket by its identifier
-/

namespace SignOn

namespace Sealing

variable {s : Sealing} {m m' : MemoryStore} {p : ProxyTicket} {t stored : Ticket} {n : Nat}

/-- The storage keys of a proxy-granting ticket and of its service tickets. -/
def keysVia (s : Sealing) (p : ProxyTicket) : List String :=
  (p.body.services.keys ++ [p.id]).map s.key

/-- The ticket that a proxy-granting ticket came from, if it has a list of such tickets: a session,
or another proxy-granting ticket. -/
def Lister (s : Sealing) (m : MemoryStore) (p : ProxyTicket) (t : Ticket) : Prop :=
  s.resolve m p.parent = .ok (some t) ∧ ∃ body, t.session? = some body

/-- The second store is the first one without a proxy-granting ticket and its service tickets. The
ticket that it came from is of the same kind and has the same content, without the entry; only if it
was not sealed before and is now, its dates are as they are read back. -/
structure Detaches (s : Sealing) (m : MemoryStore) (p : ProxyTicket) (m' : MemoryStore) :
    Prop where
  gone : ∀ key ∈ s.keysVia p, m'.get? key = Option.none
  struck : ∀ t, s.Lister m p t → t ≠ .proxy p → ∃ stored t', m'.get? (s.key t.id) = some stored ∧
    s.Redated m t t' ∧ s.decode stored = .ok (t'.mapSession (·.removeProxy p.id))
  others : ∀ key, key ∉ s.keysVia p → (∀ t, s.Lister m p t → key ≠ s.key t.id) →
    m'.get? key = m.get? key

/-- There is no more than one lister. -/
theorem Lister.eq {t' : Ticket} (h : s.Lister m p t) (h' : s.Lister m p t') : t = t' :=
  Option.some.inj (Except.ok.inj (h.1.symm.trans h'.1))

/-- A lister is none of the service tickets. -/
theorem Lister.key_not_mem_services (h : s.Lister m p t) (hm : s.WellLinked m)
    (hp : s.Stores m (.proxy p)) : s.key p.parent ∉ p.body.services.keys.map s.key := by
  obtain ⟨hparent, body, hbody⟩ := h
  exact hm.key_not_mem_services hp rfl hparent hbody

/-- A lister goes with the ticket only if it is the ticket itself. -/
theorem Lister.key_not_mem (h : s.Lister m p t) (hm : s.WellLinked m)
    (hp : s.Stores m (.proxy p)) (hne : t ≠ .proxy p) : s.key p.parent ∉ s.keysVia p := by
  rw [keysVia, List.map_append, List.mem_append, not_or]
  refine ⟨h.key_not_mem_services hm hp, fun hself => hne ?_⟩
  -- Under the key of the ticket there is only the ticket.
  have hparent : s.resolve m p.parent = .ok (some (.proxy p)) := by
    rw [resolve_of_key_eq (List.mem_singleton.1 hself)]
    exact hp
  exact Option.some.inj (Except.ok.inj (h.1.symm.trans hparent))

/-- A reliable sealing puts the lister down again. -/
theorem Lister.encodes (h : s.Lister m p t) (hs : s.Reliable) (hm : s.WellLinked m) :
    s.Encodes (t.mapSession (·.removeProxy p.id)) := by
  obtain ⟨hparent, body, hbody⟩ := h
  exact hs.encodes_removeProxy hbody (hm.canHold (hm.stores_of_resolve hparent).1) p.id

/-- Where there is no lister, it is enough that the tickets are removed. -/
theorem detaches_of_removes (hnone : ∀ t, ¬s.Lister m p t) (h : m.Removes (s.keysVia p) n m') :
    s.Detaches m p m' where
  gone key hkey := by rw [h.get?_eq, if_pos hkey]
  struck t hlister := absurd hlister (hnone t)
  others _ hkey _ := h.get?_of_not_mem hkey

/-- Otherwise the lister is put before that, without the entry. -/
theorem Lister.detaches (hlister : s.Lister m p t) (hm : s.WellLinked m)
    (hp : s.Stores m (.proxy p))
    (hstored : s.decode stored = .ok ((t.mapDates s.redate).mapSession (·.removeProxy p.id)))
    (h : (m.put (s.key p.parent) stored).Removes (s.keysVia p) n m') : s.Detaches m p m' where
  gone key hkey := by rw [h.get?_eq, if_pos hkey]
  struck t' hlister' hne := by
    obtain rfl := hlister.eq hlister'
    refine ⟨stored, _, ?_, (hm.stores_of_resolve hlister.1).1.redated, hstored⟩
    rw [← (hm.stores_of_resolve hlister.1).2, h.get?_of_not_mem (hlister.key_not_mem hm hp hne)]
    exact MemoryStore.get?_put_self m _ stored
  others key hkey hne := by
    rw [h.get?_of_not_mem hkey]
    apply MemoryStore.get?_put_of_ne
    rw [(hm.stores_of_resolve hlister.1).2]
    exact hne t hlister

end Sealing

namespace Registry

variable {r : Registry MemoryStore} {w : World MemoryStore} {p : ProxyTicket} {t : Ticket}

/-- Without a lister there is no list that the ticket is struck off. -/
theorem detach_of_no_lister (hr : r.InMemory) {found : Option Ticket}
    (hfound : r.sealing.resolve w.store p.parent = .ok found)
    (hnone : ∀ t, ¬r.sealing.Lister w.store p t) : r.detach p w = .ok () w := by
  rw [detach, Action.bind_of_ok (find_of_resolve hr hfound)]
  cases found with
  | none => rfl
  | some t =>
    cases t with
    | session t => exact absurd ⟨hfound, t, rfl⟩ (hnone (.session t))
    | proxy t => exact absurd ⟨hfound, t.body, rfl⟩ (hnone (.proxy t))
    | service t => rfl
    | sealed t => rfl

/-- Without a lister, deleting a proxy-granting ticket removes the ticket and its service tickets,
and does nothing else. -/
theorem deleteProxy_run_of_no_lister (hr : r.InMemory) {found : Option Ticket}
    (hfound : r.sealing.resolve w.store p.parent = .ok found)
    (hnone : ∀ t, ¬r.sealing.Lister w.store p t) :
    ∃ n m, r.deleteProxy p w = .ok n { w with store := m } ∧
      w.store.Removes (r.sealing.keysVia p) n m := by
  obtain ⟨n, m, hservices, hremoves⟩ := deleteEach_run hr p.body.services.keys w
  -- What the ticket came from may be one of the service tickets, and be gone by now.
  have hdetach : r.detach p { w with store := m } = .ok () { w with store := m } := by
    rcases Sealing.resolve_eq_or_eq_none_of_removes hremoves p.parent with hsame | hgone
    · apply detach_of_no_lister hr (hsame.trans hfound)
      exact fun t hlister => hnone t ⟨hsame.symm.trans hlister.1, hlister.2⟩
    · apply detach_of_no_lister hr hgone
      rintro t ⟨hparent, -⟩
      rw [hgone] at hparent
      cases hparent
  have hlast := deleteOne_run hr p.id { w with store := m }
  refine ⟨n + (m.entries.contains (r.sealing.key p.id)).toNat, m.delete (r.sealing.key p.id), ?_, ?_⟩
  · rw [deleteProxy, deleteServices, Action.bind_of_ok hservices, Action.bind_of_ok hdetach,
      Action.bind_of_ok hlast]
    rfl
  · rw [Sealing.keysVia, List.map_append]
    exact hremoves.trans (MemoryStore.removes_delete _ _)

/-- Deleting a proxy-granting ticket of a well-linked store counts the entries of the ticket and of
its service tickets, and strikes the ticket off the list of what it came from. -/
theorem deleteProxy_detaches (hr : r.InMemory) (hs : r.sealing.Opens)
    (hm : r.sealing.WellLinked w.store) (hp : r.sealing.Stores w.store (.proxy p))
    (hencodes : ∀ t, r.sealing.Lister w.store p t →
      r.sealing.Encodes (t.mapSession (·.removeProxy p.id))) :
    ∃ n m tape, r.deleteProxy p w = .ok n { w with store := m, tape := tape } ∧
      n = w.store.entries.keys.countP (· ∈ r.sealing.keysVia p) ∧
      r.sealing.Detaches w.store p m := by
  -- With a lister its entry is put before the last deletion; without one nothing is put at all.
  by_cases hlisted : ∃ t, r.sealing.Lister w.store p t
  · obtain ⟨t, hlister⟩ := hlisted
    have hlisted := hlister
    obtain ⟨hparent, body, hbody⟩ := hlisted
    obtain ⟨n, m, stored, tape, hrun, hstored, hremoves⟩ := deleteProxy_run_of_encodes hr hs hparent
      hbody (hm.stores_of_resolve hparent).2.symm (hencodes t hlister)
      (hlister.key_not_mem_services hm hp)
    refine ⟨n, m, tape, hrun, ?_, hlister.detaches hm hp hstored hremoves⟩
    -- The lister was put in its own place, so the keys are those from before.
    obtain ⟨-, old, hold, -⟩ := Sealing.resolve_eq_some_iff.1 hparent
    rw [← MemoryStore.countP_keys_put hold]
    exact hremoves.eq_countP
  · have hnone : ∀ t, ¬r.sealing.Lister w.store p t := fun t hlister => hlisted ⟨t, hlister⟩
    cases hfound : r.sealing.resolve w.store p.parent with
    | error e => exact absurd hfound (hm.sound.resolve_ne_error p.parent e)
    | ok found =>
      obtain ⟨n, m, hrun, hremoves⟩ := deleteProxy_run_of_no_lister hr hfound hnone
      exact ⟨n, m, w.tape, hrun, hremoves.eq_countP, Sealing.detaches_of_removes hnone hremoves⟩

/-- Deleting a proxy-granting ticket is exact, whatever it came from. In a well-linked store the
ticket goes with its stored service tickets, and their number is given. If it came from a session or
from another proxy-granting ticket that is stored, this is put again as a ticket of the same kind,
with nothing but the entry struck off (and its dates as they are read back, if it was not sealed
before and is now); every other entry is as it was. The cipher, if there is one, has to decrypt what
it encrypted. A reliable one puts that ticket down again (`Lister.encodes`); any other one has to
encrypt this ticket only. -/
theorem delete_proxy_exact (hr : r.InMemory) (hs : r.sealing.Opens)
    (hm : r.sealing.WellLinked w.store) (hp : r.sealing.Stores w.store (.proxy p))
    (hencodes : ∀ t, r.sealing.Lister w.store p t →
      r.sealing.Encodes (t.mapSession (·.removeProxy p.id))) :
    ∃ n w', r.delete p.id w = .ok n w' ∧
      n = w.store.entries.keys.countP (· ∈ r.sealing.keysVia p) ∧
      r.sealing.Detaches w.store p w'.store := by
  obtain ⟨n, m, tape, hrun, hcount, hdetaches⟩ := deleteProxy_detaches hr hs hm hp hencodes
  have htree : r.deleteTree (.proxy p) w = .ok n { w with store := m, tape := tape } := hrun
  exact ⟨n, _, delete_of_resolve hr hp htree, hcount, hdetaches⟩

/-- A proxy-granting ticket that came from another one, with a service ticket and one that is
missing: two tickets go, and the other proxy-granting ticket keeps its own session, its service
ticket and the other entry of its list. -/
theorem delete_proxy_exact_chained :
    let now : Instant := ⟨⟨2024, 1, 1, by decide⟩, 0, 0, by decide, by decide⟩
    let login : Authentication := ⟨⟨"alice", .empty⟩, [], .empty, .empty, .empty, now⟩
    let session (id : String) (services proxies : List String) : Session :=
      ⟨id, now, .never, login, .ofList (services.map (·, ⟨"s"⟩)), .ofList (proxies.map (·, ⟨"p"⟩))⟩
    let service (id parent : String) : Ticket := .service ⟨id, now, .never, parent, ⟨"s"⟩, false⟩
    let p : ProxyTicket := ⟨session "PGT-2" ["ST-2", "ST-9"] [], "PGT-1", ⟨"p"⟩⟩
    let parent (proxies : List String) : Ticket :=
      .proxy ⟨session "PGT-1" ["ST-1"] proxies, "TGT-1", ⟨"q"⟩⟩
    let tickets : List Ticket := [.session (session "TGT-1" [] ["PGT-1"]),
      parent ["PGT-2", "PGT-3"], .proxy p, service "ST-1" "PGT-1", service "ST-2" "PGT-2"]
    let w : World MemoryStore :=
      ⟨⟨.ofList (tickets.map fun t => (t.id, t)), 5⟩, ⟨fun _ => 0, 0⟩, .empty⟩
    ∃ w', delete ⟨.memory, .none⟩ "PGT-2" w = .ok 2 w' ∧
      w'.store.get? "PGT-2" = none ∧ w'.store.get? "ST-2" = none ∧
      w'.store.get? "PGT-1" = some (parent ["PGT-3"]) ∧
      ∀ key, key ∉ ["PGT-1", "ST-2", "ST-9", "PGT-2"] → w'.store.get? key = w.store.get? key := by
  intro now login session service p parent tickets w
  have hinactive : Sealing.none.isActive = false := rfl
  have hm : Sealing.none.WellLinked w.store :=
    Sealing.wellLinked_of_isWellLinked hinactive (by decide)
  have hstores : ∀ t ∈ tickets, Sealing.none.Stores w.store t := by
    simp only [Sealing.stores_iff_of_inactive hinactive]
    decide
  have hlister : Sealing.none.Lister w.store p (parent ["PGT-2", "PGT-3"]) :=
    ⟨hstores (parent ["PGT-2", "PGT-3"]) (by decide), _, rfl⟩
  obtain ⟨n, w', hrun, hcount, hdetaches⟩ := delete_proxy_exact (r := ⟨.memory, .none⟩)
    (inMemory_memory _) (Sealing.opens_of_inactive hinactive) hm
    (hstores (.proxy p) (by decide))
    fun t ht => ht.encodes (Sealing.reliable_of_inactive hinactive) hm
  have hkeys : Sealing.none.keysVia p = ["ST-2", "ST-9", "PGT-2"] := by decide
  obtain rfl : n = 2 := by
    rw [hcount, hkeys]
    decide
  refine ⟨w', hrun, hdetaches.gone _ (by decide), hdetaches.gone _ (by decide), ?_, ?_⟩
  · obtain ⟨stored, t', hget, hredated, hstored⟩ := hdetaches.struck _ hlister (by decide)
    obtain rfl := hredated.eq_of_onMinute (by decide)
    rw [Sealing.decode_of_inactive hinactive] at hstored
    obtain rfl := Except.ok.inj hstored
    exact hget
  · intro key hkey
    apply hdetaches.others key
    · rw [hkeys]
      exact List.not_mem_of_not_mem_cons hkey
    · intro t ht
      obtain rfl := ht.eq hlister
      exact List.ne_of_not_mem_cons hkey

end Registry

end SignOn
