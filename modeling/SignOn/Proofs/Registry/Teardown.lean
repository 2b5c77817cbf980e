import SignOn.Proofs.Registry.Resumption
import SignOn.Proofs.Registry.Robustness

/-!
# Tearing a session down

The tickets of a session may be deleted one by one, in any order and more than once, the session
itself among them. Every such deletion leaves a store in which the session is being deleted, or one
from which the whole family is gone; and it counts the entries that it removes. So the order is no
matter: in the end the family is gone, nothing else is, and the counts add up to the entries that
the family had.

## Main definitions

* `Sealing.Without` - a store without the family of a session
* `Sealing.Torn` - the family of a session is partly gone, or all of it is

## Main results

* `Registry.delete_underway` - a single deletion while the session is still there
* `Registry.delete_torn` - a single deletion, whatever is there
* `Registry.runAll_torn` - any number of deletions
* `Registry.teardown` - what any order of deletions that ends with the session comes to
-/

namespace SignOn

namespace Sealing

variable {s : Sealing} {m m₀ : MemoryStore} {root : Session} {id : String}

/-! ### What is left of a family -/

/-- The first store without the family of a session. -/
def Without (s : Sealing) (m₀ : MemoryStore) (root : Session) (m : MemoryStore) : Prop :=
  ∀ key, m.get? key = if key ∈ (s.family m₀ root).map s.key then Option.none else m₀.get? key

/-- The family of a session is partly gone, and then the session is still there; or all of it is
gone. -/
def Torn (s : Sealing) (m₀ : MemoryStore) (root : Session) (m : MemoryStore) : Prop :=
  (∃ now, s.Underway m₀ root now m) ∨ s.Without m₀ root m

/-- What is gone with the family is as much as the family had. -/
theorem Without.countP_add_size (h : s.Without m₀ root m) :
    m₀.entries.keys.countP (· ∈ (s.family m₀ root).map s.key) + m.size = m₀.size := by
  apply MemoryStore.countP_add_size
  intro key
  rw [TextMap.mem_keys_iff_ne_none, TextMap.mem_keys_iff_ne_none, ← MemoryStore.get?,
    ← MemoryStore.get?, h key]
  by_cases hmem : key ∈ (s.family m₀ root).map s.key <;> simp [hmem]

/-- No other ticket of a family has the key of the session. -/
theorem WellLinked.key_ne_of_mem_family (hm : s.WellLinked m) (hsep : s.Separates (s.InPlay m))
    (hroot : s.Stores m (.session root)) (hid : id ∈ s.family m root) (hne : id ≠ root.id) :
    s.key id ≠ s.key root.id :=
  fun hkey => hne (hsep _ _ (hroot.inPlay_family hm hid) hroot.inPlay hkey)

/-- What a ticket of the family is: the session, a service ticket of it or of one of its
proxy-granting tickets, or one of these. -/
theorem cases_of_mem_family (hm : s.Keyed m) (hroot : s.Stores m (.session root))
    (hid : id ∈ s.family m root) : id = root.id ∨ id ∈ root.proxies.keys ∨
      ∃ t body, s.Stores m t ∧ t.session? = some body ∧ id ∈ body.services.keys := by
  rcases List.mem_append.1 hid with hid | hself
  · rcases List.mem_append.1 hid with hservice | hvia
    · exact .inr (.inr ⟨.session root, root, hroot, rfl, hservice⟩)
    · obtain ⟨proxy, hproxy, hvia⟩ := List.mem_flatMap.1 hvia
      obtain ⟨p, hp, hservice | rfl⟩ := mem_familyVia_iff.1 hvia
      · exact .inr (.inr ⟨.proxy p, p.body, (hm.stores_of_resolve hp).1, rfl, hservice⟩)
      · exact .inr (.inl hproxy)
  · exact .inl (List.mem_singleton.1 hself)

end Sealing

namespace Registry

variable {r : Registry MemoryStore} {m₀ : MemoryStore} {root now : Session}
  {w : World MemoryStore} {id : String} {t : Ticket} {body : Session}

section Single

variable (hr : r.InMemory) (hs : r.sealing.Reliable) (hm : r.sealing.WellLinked m₀)
  (hsep : r.sealing.Separates (r.sealing.InPlay m₀)) (hroot : r.sealing.Stores m₀ (.session root))

include hr hm hsep hroot

/-- A service ticket of the family goes alone. -/
theorem delete_service_underway (h : r.sealing.Underway m₀ root now w.store)
    (hid : id ∈ r.sealing.family m₀ root) (ht : r.sealing.Stores m₀ t)
    (hbody : t.session? = some body) (hservice : id ∈ body.services.keys)
    (hfound : r.sealing.resolve w.store id = r.sealing.resolve m₀ id)
    (hsome : r.sealing.resolve m₀ id ≠ .ok none) :
    ∃ n v, r.delete id w = .ok n v ∧ r.sealing.Underway m₀ root now v.store ∧
      n + v.store.size = w.store.size := by
  obtain ⟨st, hst, -⟩ := (hm.services ht hbody id hservice).resolve_left hsome
  have hstid : st.id = id := hm.id_eq_of_resolve hsep (ht.inPlay_service hbody hservice) hst
  have htree : r.deleteTree (.service st) w =
      .ok (w.store.entries.contains (r.sealing.key id)).toNat
        { w with store := w.store.delete (r.sealing.key id) } := by
    rw [deleteTree, hstid, Action.bind_of_ok (deleteOne_run hr id w)]
    rfl
  have hremoves : w.store.Removes ([id].map r.sealing.key) _ _ :=
    MemoryStore.removes_delete w.store (r.sealing.key id)
  refine ⟨_, _, delete_of_resolve hr (hfound.trans hst) htree, h.removes hremoves ?_ ?_ ?_,
    hremoves.size_eq⟩
  · rintro child hchild
    rwa [List.mem_singleton.1 hchild]
  · intro hmem
    exact hm.key_ne_of_session hsep hroot ht hbody (.inl hservice) (List.mem_singleton.1 hmem).symm
  · intro other hother hmem
    exact hm.resolve_eq_none_of_key_eq ht hbody hroot rfl hsep hservice (h.mem_proxies hother)
      (List.mem_singleton.1 hmem).symm

include hs

/-- A proxy-granting ticket of the family goes with its service tickets, and is struck off. -/
theorem delete_proxy_underway (h : r.sealing.Underway m₀ root now w.store)
    (hid : id ∈ root.proxies.keys) (hfound : r.sealing.resolve w.store id = .ok (some t)) :
    ∃ n v now', r.delete id w = .ok n v ∧ r.sealing.Underway m₀ root now' v.store ∧
      n + v.store.size = w.store.size := by
  obtain ⟨hnow, p, rfl, hp, hparent⟩ := h.listed_of_resolve hm hsep hroot hid hfound
  have hkey : r.sealing.key p.parent ∉ p.body.services.keys.map r.sealing.key := by
    rw [hparent]
    exact hm.key_not_mem_services (hm.stores_of_resolve hp).1 rfl hroot rfl
  have hsession : r.sealing.resolve w.store p.parent = .ok (some (.session now)) :=
    hparent ▸ h.resolve_eq
  have hhold : r.sealing.CanHold (.session now) := (h.keyed hm.toKeyed).canHold h.stores
  obtain ⟨n, m, stored, tape, hrun, -, hremoves⟩ := deleteProxy_run hr hs hsession rfl
    (congrArg r.sealing.key (h.id_eq.trans hparent.symm)) hhold hkey
  obtain ⟨now', hnow'⟩ :=
    (underway_deleteProxy hr hm hsep hroot hs.opens hid hp hparent now hnow).of_ok h hrun
  refine ⟨n, _, now', delete_of_resolve hr hfound hrun, hnow', ?_⟩
  -- The session was put again, in its own place.
  obtain ⟨-, old, hold, -⟩ := Sealing.resolve_eq_some_iff.1 hsession
  exact hremoves.size_eq.trans (MemoryStore.size_put hold)

/-- While the session is there, deleting another ticket of the family leaves it there. -/
theorem delete_underway (h : r.sealing.Underway m₀ root now w.store)
    (hid : id ∈ r.sealing.family m₀ root ∨ r.sealing.resolve m₀ id = .ok none)
    (hne : id ≠ root.id) :
    ∃ n v now', r.delete id w = .ok n v ∧ r.sealing.Underway m₀ root now' v.store ∧
      n + v.store.size = w.store.size := by
  have hkey : r.sealing.key id ≠ r.sealing.key root.id := by
    rcases hid with hid | hnone
    · exact hm.key_ne_of_mem_family hsep hroot hid hne
    · intro hkey
      have hfound := (Sealing.resolve_of_key_eq hkey).trans hroot
      rw [hnone] at hfound
      cases hfound
  have hnothing : r.sealing.resolve w.store id = .ok none →
      ∃ n v now', r.delete id w = .ok n v ∧ r.sealing.Underway m₀ root now' v.store ∧
        n + v.store.size = w.store.size := fun hnone =>
    ⟨0, w, now, delete_of_find_none (find_of_resolve hr hnone), h, Nat.zero_add _⟩
  rcases h.resolve_eq_or_eq_none hkey with hsame | hnone
  · by_cases hsome : r.sealing.resolve m₀ id = .ok none
    · exact hnothing (hsame.trans hsome)
    rcases Sealing.cases_of_mem_family hm.toKeyed hroot (hid.resolve_right hsome) with
      hself | hproxy | ⟨t, body, ht, hbody, hservice⟩
    · exact absurd hself hne
    · obtain ⟨p, hp, -⟩ := (hm.proxies hroot rfl id hproxy).resolve_left hsome
      exact delete_proxy_underway hr hs hm hsep hroot h hproxy (hsame.trans hp)
    · obtain ⟨n, v, hrun, hnow, hsize⟩ := delete_service_underway hr hm hsep hroot h
        (hid.resolve_right hsome) ht hbody hservice hsame hsome
      exact ⟨n, v, now, hrun, hnow, hsize⟩
  · exact hnothing hnone

/-- Deleting the session removes what is left of the family. -/
theorem delete_root_underway (h : r.sealing.Underway m₀ root now w.store) :
    ∃ n v, r.delete root.id w = .ok n v ∧ r.sealing.Without m₀ root v.store ∧
      n + v.store.size = w.store.size := by
  obtain ⟨n, m, tape, hrun, hremoves⟩ := deleteSession_run hr hs (h.wellLinked hm hsep hroot)
    (hsep.mono fun _ => h.inPlay hroot) h.stores
  refine ⟨n, _, delete_of_resolve hr h.resolve_eq hrun, fun key => ?_, hremoves.size_eq⟩
  obtain ⟨n₀, rest₀, -, hall, -⟩ :=
    deleteKeys_run hr ((r.sealing.family m₀ root).map r.sealing.key) { w with store := m₀ }
  rw [← hall.get?_eq]
  exact h.get?_of_removes hremoves hall key

omit hs hm hsep hroot in
/-- When the family is gone, there is nothing more to delete. -/
theorem delete_without (h : r.sealing.Without m₀ root w.store)
    (hid : id ∈ r.sealing.family m₀ root ∨ r.sealing.resolve m₀ id = .ok none) :
    r.delete id w = .ok 0 w := by
  refine delete_of_find_none (find_of_resolve hr ?_)
  have hget := h (r.sealing.key id)
  by_cases hmem : r.sealing.key id ∈ (r.sealing.family m₀ root).map r.sealing.key
  · rw [if_pos hmem] at hget
    exact Sealing.resolve_of_get?_eq_none hget
  · rw [if_neg hmem] at hget
    refine (Sealing.resolve_congr hget).trans (hid.resolve_left fun hid => hmem ?_)
    exact List.mem_map_of_mem hid

/-- A deletion of any ticket of the family succeeds and counts the entries that go. The family is
gone afterwards if it was gone before, or if it was the session that was deleted. -/
theorem delete_torn (h : r.sealing.Torn m₀ root w.store)
    (hid : id ∈ r.sealing.family m₀ root ∨ r.sealing.resolve m₀ id = .ok none) :
    ∃ n v, r.delete id w = .ok n v ∧ r.sealing.Torn m₀ root v.store ∧
      n + v.store.size = w.store.size ∧
      (r.sealing.Without m₀ root w.store ∨ id = root.id → r.sealing.Without m₀ root v.store) := by
  by_cases hgone : r.sealing.Without m₀ root w.store
  · exact ⟨0, w, delete_without hr hgone hid, h, Nat.zero_add _, fun _ => hgone⟩
  obtain ⟨now, hnow⟩ := h.resolve_right hgone
  by_cases hself : id = root.id
  · obtain ⟨n, v, hrun, hwithout, hsize⟩ := delete_root_underway hr hs hm hsep hroot hnow
    exact ⟨n, v, hself ▸ hrun, .inr hwithout, hsize, fun _ => hwithout⟩
  · obtain ⟨n, v, now', hrun, hnow', hsize⟩ :=
      delete_underway hr hs hm hsep hroot hnow hid hself
    exact ⟨n, v, hrun, .inl ⟨now', hnow'⟩, hsize,
      fun hor => absurd hor (not_or.2 ⟨hgone, hself⟩)⟩

/-- Deletions one after the other all succeed, and their counts add up to the entries that go. -/
theorem runAll_torn {ids : List String} (h : r.sealing.Torn m₀ root w.store)
    (hids : ∀ id ∈ ids, id ∈ r.sealing.family m₀ root ∨ r.sealing.resolve m₀ id = .ok none) :
    ∃ counts : List Nat,
      (r.observe (ids.map .delete) w).map Observation.outcome =
        counts.map (fun n => .ok (.removed n)) ∧
      counts.sum + (r.runAll (ids.map .delete) w).store.size = w.store.size ∧
      (r.sealing.Without m₀ root w.store ∨ root.id ∈ ids →
        r.sealing.Without m₀ root (r.runAll (ids.map .delete) w).store) := by
  induction ids generalizing w with
  | nil => exact ⟨[], rfl, Nat.zero_add _, fun hor => hor.resolve_right List.not_mem_nil⟩
  | cons id rest ih =>
    obtain ⟨hid, hrest⟩ := List.forall_mem_cons.1 hids
    obtain ⟨n, v, hdelete, htorn, hsize, hgone⟩ := delete_torn hr hs hm hsep hroot h hid
    obtain ⟨counts, houtcomes, hsum, hrestgone⟩ := ih htorn hrest
    have hrun : Operation.run r (.delete id) w = .ok (.removed n) v :=
      Action.bind_of_ok hdelete _
    refine ⟨n :: counts, ?_, ?_, fun hor => ?_⟩
    · simp only [List.map_cons, observe, Action.outcome, Action.after, hrun, houtcomes]
    · simp only [List.map_cons, runAll, Action.after, hrun, List.sum_cons]
      omega
    · simp only [List.map_cons, runAll, Action.after, hrun]
      refine hrestgone ?_
      rcases hor with hwithout | hmem
      · exact .inl (hgone (.inl hwithout))
      · exact (List.mem_cons.1 hmem).imp (fun heq => hgone (.inr heq.symm)) fun hmem => hmem

end Single

/-- The order does not matter in which the tickets of a session are deleted. In a well-linked store,
let any of its service tickets, of its proxy-granting tickets and of their service tickets be
deleted, in any order and more than once, and the session itself at some time; identifiers that lead
to nothing may be among them. All of these deletions succeed. In the end the family of the session
is gone, everything else is as it was, and the counts add up to the number of entries that the
family had. -/
theorem teardown (hr : r.InMemory) (hs : r.sealing.Reliable) (hm : r.sealing.WellLinked w.store)
    (hfree : r.sealing.isActive = true → Sha512.CollisionFree (r.sealing.InPlay w.store))
    (hroot : r.sealing.Stores w.store (.session root)) {ids : List String}
    (hids : ∀ id ∈ ids,
      id ∈ r.sealing.family w.store root ∨ r.sealing.resolve w.store id = .ok none)
    (hlast : root.id ∈ ids) :
    ∃ counts : List Nat,
      (r.observe (ids.map .delete) w).map Observation.outcome =
        counts.map (fun n => .ok (.removed n)) ∧
      (∀ key, (r.runAll (ids.map .delete) w).store.get? key =
        if key ∈ (r.sealing.family w.store root).map r.sealing.key then none
        else w.store.get? key) ∧
      counts.sum =
        w.store.entries.keys.countP (· ∈ (r.sealing.family w.store root).map r.sealing.key) := by
  have hsep := Sealing.separates_of_collisionFree hfree
  have hstart : r.sealing.Torn w.store root w.store :=
    .inl ⟨root, Sealing.underway_refl hm.toKeyed hroot⟩
  obtain ⟨counts, houtcomes, hsum, hgone⟩ := runAll_torn hr hs hm hsep hroot hstart hids
  have hwithout := hgone (.inr hlast)
  have hsize := hwithout.countP_add_size
  exact ⟨counts, houtcomes, hwithout, by omega⟩

/-- A session with a service ticket, one that is missing, and two proxy-granting tickets, of which
one has a service ticket and the other one is missing. The tickets are deleted from the bottom to
the top, some of them twice; the other session stays. -/
theorem teardown_upwards :
    let now : Instant := ⟨⟨2024, 1, 1, by decide⟩, 0, 0, by decide, by decide⟩
    let login : Authentication := ⟨⟨"alice", .empty⟩, [], .empty, .empty, .empty, now⟩
    let session (id : String) (services proxies : List String) : Session :=
      ⟨id, now, .never, login, .ofList (services.map (·, ⟨"s"⟩)), .ofList (proxies.map (·, ⟨"p"⟩))⟩
    let service (id parent : String) : Ticket := .service ⟨id, now, .never, parent, ⟨"s"⟩, false⟩
    let root := session "TGT-1" ["ST-1", "ST-9"] ["PGT-1", "PGT-9"]
    let tickets : List Ticket := [.session root, service "ST-1" "TGT-1",
      .proxy ⟨session "PGT-1" ["ST-2"] [], "TGT-1", ⟨"p"⟩⟩, service "ST-2" "PGT-1",
      .session (session "TGT-2" ["ST-3"] []), service "ST-3" "TGT-2"]
    let w : World MemoryStore :=
      ⟨⟨.ofList (tickets.map fun t => (t.id, t)), 6⟩, ⟨fun _ => 0, 0⟩, .empty⟩
    let ids := ["ST-2", "PGT-9", "PGT-1", "ST-2", "ST-9", "ST-1", "PGT-1", "TGT-1"]
    ∃ counts : List Nat,
      (observe ⟨.memory, .none⟩ (ids.map .delete) w).map Observation.outcome =
        counts.map (fun n => .ok (.removed n)) ∧
      (∀ key, (runAll ⟨.memory, .none⟩ (ids.map .delete) w).store.get? key =
        if key ∈ ["ST-1", "ST-9", "ST-2", "PGT-1", "TGT-1"] then none else w.store.get? key) ∧
      counts.sum = 4 := by
  intro now login session service root tickets w ids
  have hinactive : Sealing.none.isActive = false := rfl
  have hm : Sealing.none.WellLinked w.store :=
    Sealing.wellLinked_of_isWellLinked hinactive (by decide)
  have hroot : Sealing.none.Stores w.store (.session root) :=
    (Sealing.stores_iff_of_inactive hinactive).2 (by decide)
  have hkeys : (Sealing.none.family w.store root).map Sealing.none.key =
      ["ST-1", "ST-9", "ST-2", "PGT-1", "TGT-1"] := by decide
  have hids : ∀ id ∈ ids, id ∈ Sealing.none.family w.store root ∨
      Sealing.none.resolve w.store id = .ok none := by
    intro id hid
    by_cases hfamily : id ∈ Sealing.none.family w.store root
    · exact .inl hfamily
    · have hmissing : ∀ id ∈ ids, id ∉ Sealing.none.family w.store root →
          w.store.get? id = none := by decide
      exact .inr (Sealing.resolve_of_get?_eq_none (hmissing id hid hfamily))
  obtain ⟨counts, houtcomes, hget, hsum⟩ := teardown (r := ⟨.memory, .none⟩) (inMemory_memory _)
    (Sealing.reliable_of_inactive hinactive) hm (fun h => by cases h) hroot hids (by decide)
  refine ⟨counts, houtcomes, fun key => ?_, ?_⟩
  · rw [hget, hkeys]
  · rw [hsum, hkeys]
    decide

end Registry

end SignOn
