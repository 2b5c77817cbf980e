import SignOn.Proofs.Registry.Family

/-!
# Deleting a session with its family

Deleting a session works on the store that it walks through: for every proxy-granting ticket the
session is found again and put again with one entry less, and at last it is put once more, from the
copy that the walk began with. In a well-linked store none of this can be seen afterwards: what is
gone is the family of the session, and everything else is as it was.

## Main results

* `Registry.deleteProxy_run_of_encodes`, `Registry.deleteProxy_run` - deleting one proxy-granting
  ticket
* `Registry.deleteEachLinked_run` - deleting the proxy-granting tickets that a session lists
* `Registry.delete_session_exact` - deleting a session removes its family and nothing else
-/

namespace SignOn

/-! ### Look-ups after a removal -/

namespace Sealing

variable {s : Sealing} {m m' : MemoryStore} {keys : List String} {n : Nat} {id : String}
  {t stored : Ticket}

/-- An identifier whose ticket was not removed leads where it led before. -/
theorem resolve_of_removes (h : m.Removes keys n m')
    (hid : s.key id ∈ keys → s.resolve m id = .ok Option.none) :
    s.resolve m' id = s.resolve m id := by
  by_cases hkey : s.key id ∈ keys
  · rw [hid hkey]
    exact resolve_of_get?_eq_none (by rw [h.get?_eq, if_pos hkey])
  · exact resolve_congr (h.get?_of_not_mem hkey)

/-- After a removal, an identifier leads where it led before, or to nothing. -/
theorem resolve_eq_or_eq_none_of_removes (h : m.Removes keys n m') (id : String) :
    s.resolve m' id = s.resolve m id ∨ s.resolve m' id = .ok Option.none := by
  by_cases hkey : s.key id ∈ keys
  · exact .inr (resolve_of_get?_eq_none (by rw [h.get?_eq, if_pos hkey]))
  · exact .inl (resolve_congr (h.get?_of_not_mem hkey))

theorem resolve_put_of_ne {key : String} (hkey : s.key id ≠ key) :
    s.resolve (m.put key t) id = s.resolve m id :=
  resolve_congr (MemoryStore.get?_put_of_ne m t hkey)

theorem resolve_put_self (hid : Text.isBlank id = false) (ht : s.decode stored = .ok t) :
    s.resolve (m.put (s.key id) stored) id = .ok (some t) :=
  resolve_eq_some_iff.2 ⟨hid, stored, MemoryStore.get?_put_self m _ _, ht⟩

/-- A reliable sealing puts down a ticket that lists less. -/
theorem Reliable.encodes_removeProxy (hs : s.Reliable) {body : Session}
    (hbody : t.session? = some body) (hhold : s.CanHold t) (id : String) :
    s.Encodes (t.mapSession (·.removeProxy id)) := by
  apply hs.encodes
  · intro _
    rw [Ticket.isSealed_mapSession, Ticket.isSealed_of_session? hbody]
  · exact hhold.mapSession fun _ h => Layout.fits_removeProxy h id

end Sealing

/-! ### Deleting a proxy-granting ticket -/

namespace Registry

variable {r : Registry MemoryStore} {w : World MemoryStore} {p : ProxyTicket} {t : Ticket}
  {body : Session}

/-- The ticket that a proxy-granting ticket came from is put again, without the entry. -/
theorem detach_of_session? (hr : r.InMemory)
    (hparent : r.sealing.resolve w.store p.parent = .ok (some t)) (hbody : t.session? = some body) :
    r.detach p w = r.update (t.mapSession (·.removeProxy p.id)) w := by
  rw [detach, Action.bind_of_ok (find_of_resolve hr hparent)]
  cases t with
  | session t => simp only [Ticket.mapSession]
  | proxy t => simp only [Ticket.mapSession]
  | service t => cases hbody
  | sealed t => cases hbody

/-- If its parent is put down again without the entry, deleting a proxy-granting ticket removes the
ticket and its service tickets. -/
theorem deleteProxy_run_of_encodes (hr : r.InMemory) (hs : r.sealing.Opens)
    (hparent : r.sealing.resolve w.store p.parent = .ok (some t)) (hbody : t.session? = some body)
    (hid : r.sealing.key t.id = r.sealing.key p.parent)
    (hencodes : r.sealing.Encodes (t.mapSession (·.removeProxy p.id)))
    (hkey : r.sealing.key p.parent ∉ p.body.services.keys.map r.sealing.key) :
    ∃ n m stored tape, r.deleteProxy p w = .ok n { w with store := m, tape := tape } ∧
      r.sealing.decode stored =
        .ok ((t.mapDates r.sealing.redate).mapSession (·.removeProxy p.id)) ∧
      (w.store.put (r.sealing.key p.parent) stored).Removes
        ((p.body.services.keys ++ [p.id]).map r.sealing.key) n m := by
  -- The service tickets go first; the parent is none of them, so it is still found.
  obtain ⟨n, m₁, hservices, hremoves⟩ := deleteEach_run hr p.body.services.keys w
  have hparent₁ : r.sealing.resolve m₁ p.parent = .ok (some t) := by
    rw [Sealing.resolve_of_removes hremoves (fun h => absurd h hkey), hparent]
  have hid' : r.sealing.key (t.mapSession (·.removeProxy p.id)).id = r.sealing.key p.parent := by
    rw [Ticket.id_mapSession (·.removeProxy p.id) t fun _ => rfl, hid]
  have hsealed : (t.mapSession (·.removeProxy p.id)).isSealed = false := by
    rw [Ticket.isSealed_mapSession, Ticket.isSealed_of_session? hbody]
  obtain ⟨stored, tape, hdecode, -, hupdate⟩ :=
    update_run_of_encodes hr hs (fun _ => hsealed) hencodes { w with store := m₁ }
  rw [Ticket.mapDates_removeProxy] at hdecode
  rw [hid'] at hupdate
  have hdetach := (detach_of_session? hr (w := { w with store := m₁ }) hparent₁ hbody).trans hupdate
  have hlast := deleteOne_run hr p.id
    { w with store := m₁.put (r.sealing.key p.parent) stored, tape := tape }
  refine ⟨n + ((m₁.put (r.sealing.key p.parent) stored).entries.contains
      (r.sealing.key p.id)).toNat, (m₁.put (r.sealing.key p.parent) stored).delete
      (r.sealing.key p.id), stored, tape, ?_, hdecode, ?_⟩
  · rw [deleteProxy, deleteServices, Action.bind_of_ok hservices, Action.bind_of_ok hdetach,
      Action.bind_of_ok hlast]
    rfl
  · -- The parent is none of the service tickets, so putting it commutes with their removal.
    obtain ⟨-, old, hold, -⟩ := Sealing.resolve_eq_some_iff.1 hparent
    rw [List.map_append]
    exact (hremoves.put hkey hold).trans (MemoryStore.removes_delete _ _)

/-- Deleting a proxy-granting ticket puts its parent again without the entry, and removes the ticket
and its service tickets. -/
theorem deleteProxy_run (hr : r.InMemory) (hs : r.sealing.Reliable)
    (hparent : r.sealing.resolve w.store p.parent = .ok (some t)) (hbody : t.session? = some body)
    (hid : r.sealing.key t.id = r.sealing.key p.parent) (hhold : r.sealing.CanHold t)
    (hkey : r.sealing.key p.parent ∉ p.body.services.keys.map r.sealing.key) :
    ∃ n m stored tape, r.deleteProxy p w = .ok n { w with store := m, tape := tape } ∧
      r.sealing.decode stored =
        .ok ((t.mapDates r.sealing.redate).mapSession (·.removeProxy p.id)) ∧
      (w.store.put (r.sealing.key p.parent) stored).Removes
        ((p.body.services.keys ++ [p.id]).map r.sealing.key) n m :=
  deleteProxy_run_of_encodes hr hs.opens hparent hbody hid
    (hs.encodes_removeProxy hbody hhold p.id) hkey

/-! ### Deleting the proxy-granting tickets of a session -/

section Linked

variable {m₀ : MemoryStore} {root root' : Session}

/-- Deleting what one listed identifier leads to puts the session again, and removes the
proxy-granting ticket with its service tickets. -/
theorem deleteLinked_run (hr : r.InMemory) (hs : r.sealing.Reliable)
    (hm : r.sealing.WellLinked m₀) (hsep : r.sealing.Separates (r.sealing.InPlay m₀))
    (hroot : r.sealing.Stores m₀ (.session root)) {id : String} (hid : id ∈ root.proxies.keys)
    (hsame : r.sealing.resolve w.store id = r.sealing.resolve m₀ id)
    (hroot' : r.sealing.resolve w.store root.id = .ok (some (.session root')))
    (hrootid : root'.id = root.id) (hhold : r.sealing.CanHold (.session root')) :
    ∃ n m stored tape rest, r.deleteLinked id w = .ok n { w with store := m, tape := tape } ∧
      r.sealing.decode stored = .ok (.session rest) ∧ rest.id = root.id ∧
      r.sealing.CanHold (.session rest) ∧
      (w.store.put (r.sealing.key root.id) stored).Removes
        ((r.sealing.familyVia m₀ id).map r.sealing.key) n m := by
  rcases hm.proxies hroot rfl id hid with hnone | ⟨p, hp, hparent⟩
  · -- Nothing is found, so the session stays as it is kept.
    obtain ⟨-, stored, hget, hstored⟩ := Sealing.resolve_eq_some_iff.1 hroot'
    refine ⟨0, w.store, stored, w.tape, root', ?_, hstored, hrootid, hhold, ?_⟩
    · rw [deleteLinked, Action.bind_of_ok (find_of_resolve hr (hsame.trans hnone))]
      rfl
    · rw [Sealing.familyVia_of_missing hnone]
      exact MemoryStore.removes_put_self hget
  · -- The ticket names the session as its parent, so it is the session that is put again.
    have hpid : p.id = id := hm.id_eq_of_resolve hsep (hroot.inPlay_proxy rfl hid) hp
    have hpstored : r.sealing.Stores m₀ (.proxy p) := (hm.stores_of_resolve hp).1
    have hparent' : p.parent = root.id := hparent
    have hkey : r.sealing.key p.parent ∉ p.body.services.keys.map r.sealing.key := by
      rw [hparent']
      exact hm.key_not_mem_services hpstored rfl hroot rfl
    have hfound : r.sealing.resolve w.store p.parent = .ok (some (.session root')) := by
      rw [hparent', hroot']
    obtain ⟨n, m, stored, tape, hrun, hstored, hremoves⟩ :=
      deleteProxy_run hr hs hfound rfl (congrArg _ (hrootid.trans hparent'.symm)) hhold hkey
    refine ⟨n, m, stored, tape, (root'.mapDates r.sealing.redate).removeProxy p.id, ?_, hstored,
      hrootid, ?_, ?_⟩
    · rw [deleteLinked, Action.bind_of_ok (find_of_resolve hr (hsame.trans hp))]
      exact hrun
    · exact fun hactive => Layout.fits_removeProxy (Sealing.canHold_mapDates_iff.2 hhold hactive)
        p.id
    · rw [Sealing.familyVia_of_proxy hp, ← hpid, ← hparent']
      exact hremoves

/-- Deleting what the listed identifiers lead to, one after the other, puts the session again, and
removes all that goes with them. -/
theorem deleteEachLinked_run (hr : r.InMemory) (hs : r.sealing.Reliable)
    (hm : r.sealing.WellLinked m₀) (hsep : r.sealing.Separates (r.sealing.InPlay m₀))
    (hroot : r.sealing.Stores m₀ (.session root)) {ids : List String}
    (hids : ∀ id ∈ ids, id ∈ root.proxies.keys) (hnodup : ids.Nodup)
    (hsame : ∀ id ∈ ids, r.sealing.resolve w.store id = r.sealing.resolve m₀ id)
    (hroot' : r.sealing.resolve w.store root.id = .ok (some (.session root')))
    (hrootid : root'.id = root.id) (hhold : r.sealing.CanHold (.session root')) :
    ∃ n m stored tape, r.deleteEachLinked ids w = .ok n { w with store := m, tape := tape } ∧
      (w.store.put (r.sealing.key root.id) stored).Removes
        ((ids.flatMap (r.sealing.familyVia m₀)).map r.sealing.key) n m := by
  induction ids generalizing w root' with
  | nil =>
    obtain ⟨-, stored, hget, -⟩ := Sealing.resolve_eq_some_iff.1 hroot'
    exact ⟨0, w.store, stored, w.tape, rfl, MemoryStore.removes_put_self hget⟩
  | cons id rest ih =>
    -- The session changes with every step, so the induction is on any session with this identifier.
    obtain ⟨hid, hrest⟩ := List.forall_mem_cons.1 hids
    obtain ⟨hidsame, hrestsame⟩ := List.forall_mem_cons.1 hsame
    obtain ⟨hnotmem, hrestnodup⟩ := List.nodup_cons.1 hnodup
    obtain ⟨n₁, m₁, stored₁, tape₁, root₁, hrun₁, hstored₁, hid₁, hhold₁, hremoves₁⟩ :=
      deleteLinked_run hr hs hm hsep hroot hid hidsame hroot' hrootid hhold
    -- The session is found again, and so is what the remaining identifiers lead to.
    have hkey := hm.key_not_mem_familyVia hsep hroot hid
    have hroot₁ : r.sealing.resolve m₁ root.id = .ok (some (.session root₁)) := by
      rw [Sealing.resolve_of_removes hremoves₁ fun h => absurd h hkey]
      exact Sealing.resolve_put_self (Sealing.resolve_eq_some_iff.1 hroot').1 hstored₁
    have hsame₁ : ∀ other ∈ rest, r.sealing.resolve m₁ other = r.sealing.resolve m₀ other := by
      intro other hother
      have hput : r.sealing.resolve (w.store.put (r.sealing.key root.id) stored₁) other =
          r.sealing.resolve m₀ other := by
        rw [Sealing.resolve_put_of_ne, hrestsame other hother]
        exact hm.key_ne_of_session hsep hroot hroot rfl (.inr (hrest other hother))
      rw [Sealing.resolve_of_removes hremoves₁, hput]
      intro hmem
      rw [hput]
      refine hm.resolve_of_mem_familyVia hsep hroot hid (hrest other hother) ?_ hmem
      rintro rfl
      exact hnotmem hother
    obtain ⟨n₂, m₂, stored₂, tape₂, hrun₂, hremoves₂⟩ :=
      @ih { w with store := m₁, tape := tape₁ } root₁ hrest hrestnodup hsame₁ hroot₁ hid₁ hhold₁
    refine ⟨n₁ + n₂, m₂, stored₂, tape₂, ?_, ?_⟩
    · rw [deleteEachLinked, Action.bind_of_ok hrun₁, Action.bind_of_ok hrun₂]
      rfl
    · rw [List.flatMap_cons, List.map_append]
      exact (hremoves₁.put hkey (MemoryStore.get?_put_self _ _ _)).of_put_put.trans hremoves₂

/-- Deleting the proxy-granting tickets of a session puts the session again, and removes all that
goes with them. -/
theorem deleteProxies_run (hr : r.InMemory) (hs : r.sealing.Reliable)
    (hm : r.sealing.WellLinked m₀) (hsep : r.sealing.Separates (r.sealing.InPlay m₀))
    (hroot : r.sealing.Stores m₀ (.session root))
    (hsame : ∀ id ∈ root.id :: root.proxies.keys,
      r.sealing.resolve w.store id = r.sealing.resolve m₀ id) :
    ∃ n m stored tape, r.deleteProxies root w = .ok n { w with store := m, tape := tape } ∧
      (w.store.put (r.sealing.key root.id) stored).Removes
        ((root.proxies.keys.flatMap (r.sealing.familyVia m₀)).map r.sealing.key) n m := by
  obtain ⟨hrootsame, hproxies⟩ := List.forall_mem_cons.1 hsame
  have hroot' : r.sealing.resolve w.store root.id = .ok (some (.session root)) :=
    hrootsame.trans hroot
  have hhold : r.sealing.CanHold (.session root) := hm.canHold hroot
  cases hempty : root.proxies.isEmpty with
  | true =>
    obtain ⟨-, stored, hget, -⟩ := Sealing.resolve_eq_some_iff.1 hroot'
    refine ⟨0, w.store, stored, w.tape, ?_, ?_⟩
    · rw [deleteProxies, if_pos hempty]
      rfl
    · rw [TextMap.isEmpty_iff.1 hempty]
      exact MemoryStore.removes_put_self hget
  | false =>
    obtain ⟨n, m, stored, tape, hrun, hremoves⟩ :=
      deleteEachLinked_run hr hs hm hsep hroot (fun _ h => h) root.proxies.nodup_keys hproxies
        hroot' rfl hhold
    -- The last update replaces what the single deletions put.
    obtain ⟨stored', tape', -, -, hupdate⟩ := update_run hr hs
      (t := .session root.clearProxies) rfl
      (fun hactive => Layout.fits_clearProxies (hhold hactive))
      { w with store := m, tape := tape }
    refine ⟨n, m.put (r.sealing.key root.id) stored', stored', tape', ?_, ?_⟩
    · rw [deleteProxies, if_neg (by rw [hempty]; exact Bool.false_ne_true), Action.bind_of_ok hrun,
        Action.bind_of_ok hupdate]
      rfl
    · refine (hremoves.put ?_ (MemoryStore.get?_put_self _ _ _)).of_put_put
      intro hmem
      obtain ⟨child, hchild, hkey⟩ := List.mem_map.1 hmem
      obtain ⟨id, hid, hchild⟩ := List.mem_flatMap.1 hchild
      exact hm.key_not_mem_familyVia hsep hroot hid (List.mem_map.2 ⟨child, hchild, hkey⟩)

end Linked

/-! ### Deleting a session -/

/-- Deleting a session removes its family. -/
theorem deleteSession_run {root : Session} (hr : r.InMemory) (hs : r.sealing.Reliable)
    (hm : r.sealing.WellLinked w.store) (hsep : r.sealing.Separates (r.sealing.InPlay w.store))
    (hroot : r.sealing.Stores w.store (.session root)) :
    ∃ n m tape, r.deleteSession root w = .ok n { w with store := m, tape := tape } ∧
      w.store.Removes ((r.sealing.family w.store root).map r.sealing.key) n m := by
  -- No service ticket of the session is the session or one of its proxy-granting tickets.
  obtain ⟨n₁, m₁, hservices, hremoves₁⟩ := deleteEach_run hr root.services.keys w
  have hkey : r.sealing.key root.id ∉ root.services.keys.map r.sealing.key :=
    hm.key_not_mem_services hroot rfl hroot rfl
  have hsame : ∀ id ∈ root.id :: root.proxies.keys,
      r.sealing.resolve m₁ id = r.sealing.resolve w.store id := by
    refine List.forall_mem_cons.2 ⟨?_, fun id hid => ?_⟩
    · exact Sealing.resolve_of_removes hremoves₁ fun hmem => absurd hmem hkey
    · exact Sealing.resolve_of_removes hremoves₁ (hm.resolve_of_mem_services hsep hroot hid)
  obtain ⟨n₂, m₂, stored, tape, hproxies, hremoves₂⟩ :=
    @deleteProxies_run r { w with store := m₁ } w.store root hr hs hm hsep hroot hsame
  have hlast := deleteOne_run hr root.id { w with store := m₂, tape := tape }
  refine ⟨n₁ + n₂ + (m₂.entries.contains (r.sealing.key root.id)).toNat,
    m₂.delete (r.sealing.key root.id), tape, ?_, ?_⟩
  · rw [deleteSession, deleteServices, Action.bind_of_ok hservices, Action.bind_of_ok hproxies,
      Action.bind_of_ok hlast]
    rfl
  · -- The session was put again on the way, but goes in the end.
    obtain ⟨-, old, hold, -⟩ := Sealing.resolve_eq_some_iff.1 hroot
    have hall := ((hremoves₁.put hkey hold).trans hremoves₂).trans
      (MemoryStore.removes_delete m₂ (r.sealing.key root.id))
    rw [Sealing.family, List.map_append, List.map_append]
    exact hall.of_put (List.mem_append_right _ (List.mem_singleton.2 rfl)) hold

/-- Deleting by identifier deletes the ticket that is found, with what was issued from it, and
counts what was deleted. -/
theorem delete_of_resolve {id : String} {n : Nat} {w' : World MemoryStore} (hr : r.InMemory)
    (hfound : r.sealing.resolve w.store id = .ok (some t)) (htree : r.deleteTree t w = .ok n w') :
    r.delete id w = .ok n { w' with metrics := w'.metrics.add .deleted n } := by
  rw [delete, Action.bind_of_ok (find_of_resolve hr hfound)]
  simp only
  rw [deleteResolved, Action.bind_of_ok htree]
  rfl

/-- Deleting a session by its identifier removes exactly the session, its service tickets, its
proxy-granting tickets and the service tickets of these, as far as they are stored. Everything else
is left as it is kept. The number that is given is that of the removed tickets. -/
theorem delete_session_exact {root : Session} (hr : r.InMemory) (hs : r.sealing.Reliable)
    (hm : r.sealing.WellLinked w.store)
    (hfree : r.sealing.isActive = true → Sha512.CollisionFree (r.sealing.InPlay w.store))
    (hroot : r.sealing.Stores w.store (.session root)) :
    ∃ n w', r.delete root.id w = .ok n w' ∧
      (∀ key, w'.store.get? key =
        if ∃ id ∈ r.sealing.family w.store root, r.sealing.key id = key then none
        else w.store.get? key) ∧
      n + w'.store.size = w.store.size ∧
      ∀ ps : List ProxyTicket,
        root.proxies.keys.map (r.sealing.resolve w.store) =
          ps.map (fun p => .ok (some (.proxy p))) →
        (∀ id ∈ r.sealing.family w.store root, r.sealing.resolve w.store id ≠ .ok none) →
        n = 1 + root.services.size + ps.length + (ps.map fun p => p.body.services.size).sum := by
  have hsep := Sealing.separates_of_collisionFree hfree
  obtain ⟨n, m, tape, hrun, hremoves⟩ := deleteSession_run hr hs hm hsep hroot
  refine ⟨n, ⟨m, tape, w.metrics.add .deleted n⟩, ?_, fun key => ?_, hremoves.size_eq, ?_⟩
  · exact delete_of_resolve hr hroot hrun
  · rw [hremoves.get?_eq]
    simp only [List.mem_map]
  · intro ps hps hfound
    -- If nothing is missing, the keys of the family are different and all in the store.
    rw [← Sealing.length_family hps, ← List.length_map (r.sealing.key)]
    refine hremoves.eq_length (hm.nodup_keys_family hsep hroot hfound) ?_
    intro key hkey hget
    obtain ⟨id, hid, rfl⟩ := List.mem_map.1 hkey
    exact hfound id hid (Sealing.resolve_of_get?_eq_none hget)

/-- Two sessions, one of them with a service ticket and two proxy-granting tickets: of eight tickets
the six of its family go. -/
theorem delete_session_exact_twoSessions :
    let now : Instant := ⟨⟨2024, 1, 1, by decide⟩, 0, 0, by decide, by decide⟩
    let login : Authentication := ⟨⟨"alice", .empty⟩, [], .empty, .empty, .empty, now⟩
    let session (id : String) (services proxies : List String) : Session :=
      ⟨id, now, .never, login, .ofList (services.map (·, ⟨"s"⟩)), .ofList (proxies.map (·, ⟨"p"⟩))⟩
    let service (id parent : String) : Ticket := .service ⟨id, now, .never, parent, ⟨"s"⟩, false⟩
    let proxy (id : String) (services : List String) : ProxyTicket :=
      ⟨session id services [], "TGT-1", ⟨"p"⟩⟩
    let root := session "TGT-1" ["ST-1"] ["PGT-1", "PGT-2"]
    let tickets : List Ticket := [.session root, service "ST-1" "TGT-1",
      .proxy (proxy "PGT-1" ["ST-2"]),
      .proxy (proxy "PGT-2" ["ST-3"]), service "ST-2" "PGT-1", service "ST-3" "PGT-2",
      .session (session "TGT-2" ["ST-4"] []), service "ST-4" "TGT-2"]
    let w : World MemoryStore :=
      ⟨⟨.ofList (tickets.map fun t => (t.id, t)), 8⟩, ⟨fun _ => 0, 0⟩, .empty⟩
    ∃ w', delete ⟨.memory, .none⟩ "TGT-1" w = .ok 6 w' ∧ w'.store.size = 2 ∧
      ∀ key, w'.store.get? key =
        if key ∈ ["ST-1", "ST-2", "PGT-1", "ST-3", "PGT-2", "TGT-1"] then none
        else w.store.get? key := by
  intro now login session service proxy root tickets w
  have hinactive : Sealing.none.isActive = false := rfl
  have hm : Sealing.none.WellLinked w.store :=
    Sealing.wellLinked_of_isWellLinked hinactive (by decide)
  have hstores : ∀ t ∈ tickets, Sealing.none.Stores w.store t := by
    simp only [Sealing.stores_iff_of_inactive hinactive]
    decide
  have hfamily : Sealing.none.family w.store root =
      ["ST-1", "ST-2", "PGT-1", "ST-3", "PGT-2", "TGT-1"] := by decide
  obtain ⟨n, w', hrun, hget, hsize, hcount⟩ :=
    delete_session_exact (r := ⟨.memory, .none⟩) (inMemory_memory _)
      (Sealing.reliable_of_inactive hinactive) hm (fun h => by cases h)
      (hstores (.session root) List.mem_cons_self)
  obtain rfl : n = 6 := by
    refine hcount [proxy "PGT-1" ["ST-2"], proxy "PGT-2" ["ST-3"]] ?_ ?_
    · have h₁ := hstores (.proxy (proxy "PGT-1" ["ST-2"])) (by decide)
      have h₂ := hstores (.proxy (proxy "PGT-2" ["ST-3"])) (by decide)
      exact congr (congrArg (fun a b => [a, b]) h₁) h₂
    · intro id hid hnone
      have hall : ∀ id ∈ ["ST-1", "ST-2", "PGT-1", "ST-3", "PGT-2", "TGT-1"],
          ∃ t ∈ tickets, t.id = id := by decide
      obtain ⟨t, ht, rfl⟩ := hall id (hfamily ▸ hid)
      have hfound := (hstores t ht).symm.trans hnone
      cases hfound
  have hstart : w.store.size = 8 := by decide
  refine ⟨w', hrun, by omega, fun key => ?_⟩
  rw [hget, hfamily]
  simp only [Sealing.key_of_inactive hinactive, exists_eq_right]

end Registry

end SignOn
