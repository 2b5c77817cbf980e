import Mathlib.Data.List.Nodup
import SignOn.Proofs.Registry.Operations
import SignOn.Proofs.Sealing.Traversal

/-!
# Registries that seal their tickets

A store of sealed tickets mirrors a store of the same tickets as they are, if under the storage key
of every identifier it keeps what is opened to the ticket that the other one keeps under the
identifier itself, with its dates as they come back. Every step of a registry keeps this. So a
caller can tell whether tickets are sealed by a leap second within a minute, and by nothing else.

## Main definitions

* `Sealing.Admits` - a ticket can be held, uses some identifiers only, and has known dates at rest
* `Sealing.Mirrors` - a store keeps the tickets of a store without encryption

## Main results

* `Sealing.Mirrors.put`, `Sealing.Mirrors.delete` - the two ways to change a store keep its mirror
* `Sealing.Mirrors.size_eq`, `Sealing.Mirrors.decodeAll` - the same tickets, as many of them
* `Sealing.Mirrors.wellLinked` - sealed tickets are linked as the tickets themselves
* `Registry.simulation_of_separates` - a registry that seals simulates one that does not
* `Registry.observe_sealed` - a caller sees no difference but in leap seconds within a minute
-/

namespace SignOn

/-- The values of a map, found under its keys. -/
theorem TextMap.filterMap_keys {α β : Type} (m : TextMap α) (f : α → Option β) :
    m.keys.filterMap (fun key => (m.get? key).bind f) = m.values.filterMap f := by
  rw [keys, values, List.filterMap_map, List.filterMap_map]
  apply List.filterMap_congr
  intro e he
  have hget : m.get? e.1 = some e.2 := mem_entries_iff.1 he
  rw [Function.comp_apply, hget]
  rfl

namespace Sealing

variable {s : Sealing} {ids : String → Prop} {f : Instant → Instant} {m plain : MemoryStore}
  {id : String} {t stored : Ticket}

/-! ### Tickets that a registry is given -/

/-- A ticket that is not sealed can be held, and uses some identifiers only. At rest its dates are
what a function makes of them. -/
structure Admits (s : Sealing) (ids : String → Prop) (f : Instant → Instant) (t : Ticket) :
    Prop where
  unsealed : t.isSealed = false
  hold : s.CanHold t
  uses : ∀ id, t.Uses id → ids id
  redated : t.mapDates s.redate = t.mapDates f

theorem Admits.own (h : s.Admits ids f t) : ids t.id := h.uses t.id (.inl (.inl rfl))

/-- A ticket may list less. -/
theorem Admits.mapSession (h : s.Admits ids f t) {change : Session → Session}
    (hid : ∀ body, (change body).id = body.id)
    (hservices : ∀ body, (change body).services = body.services)
    (hproxies : ∀ body, ∀ id ∈ (change body).proxies.keys, id ∈ body.proxies.keys)
    (hfits : ∀ body, Layout.session.fits body = true → Layout.session.fits (change body) = true)
    (hdates : ∀ g, (t.mapSession change).mapDates g = (t.mapDates g).mapSession change) :
    s.Admits ids f (t.mapSession change) where
  unsealed := (Ticket.isSealed_mapSession change t).trans h.unsealed
  hold hactive := Layout.fits_mapSession hfits (h.hold hactive)
  uses id hid' := by
    apply h.uses
    rcases hid' with (hown | ⟨body', hbody', hlisted⟩) | hparent
    · rw [Ticket.id_mapSession change t hid] at hown
      exact .inl (.inl hown)
    · rw [Ticket.session?_mapSession] at hbody'
      obtain ⟨body, hbody, rfl⟩ := Option.map_eq_some_iff.1 hbody'
      rw [hservices] at hlisted
      exact .inl (.inr ⟨body, hbody, hlisted.imp_right (hproxies body id)⟩)
    · rw [Ticket.parent?_mapSession] at hparent
      exact .inr hparent
  redated := by rw [hdates, hdates, h.redated]

theorem Admits.removeProxy (h : s.Admits ids f t) (id : String) :
    s.Admits ids f (t.mapSession fun body => body.removeProxy id) :=
  h.mapSession (fun _ => rfl) (fun _ => rfl)
    (fun body other hother => ((TextMap.mem_keys_erase body.proxies id other).1 hother).2)
    (fun _ hfits => Layout.fits_removeProxy hfits id) fun g => Ticket.mapDates_removeProxy g t id

theorem Admits.clearProxies (h : s.Admits ids f t) :
    s.Admits ids f (t.mapSession Session.clearProxies) :=
  h.mapSession (fun _ => rfl) (fun _ => rfl) (fun _ _ hother => by cases hother)
    (fun _ => Layout.fits_clearProxies) fun g => Ticket.mapDates_clearProxies g t

/-! ### Mirrors -/

/-- A store keeps the tickets of a store without encryption, each under the storage key of its
identifier and with its dates as they are at rest, and was written as often. -/
structure Mirrors (s : Sealing) (ids : String → Prop) (f : Instant → Instant)
    (m plain : MemoryStore) : Prop where
  writes_eq : m.writes = plain.writes
  opened : ∀ {id}, ids id →
    (m.get? (s.key id)).map s.decode = (plain.get? id).map fun t => .ok (t.mapDates f)
  keyed : ∀ {key stored}, m.get? key = some stored → stored.id = key ∧ ∃ id, ids id ∧ s.key id = key
  admits : ∀ {key t}, plain.get? key = some t → t.id = key ∧ s.Admits ids f t

/-- Two stores without tickets that were written as often. -/
theorem mirrors_of_none (hwrites : m.writes = plain.writes) (hm : ∀ key, m.get? key = Option.none)
    (hplain : ∀ key, plain.get? key = Option.none) : s.Mirrors ids f m plain where
  writes_eq := hwrites
  opened _ := by rw [hm, hplain]; rfl
  keyed hstored := by rw [hm] at hstored; cases hstored
  admits ht := by rw [hplain] at ht; cases ht

namespace Mirrors

theorem contains_eq (h : s.Mirrors ids f m plain) (hid : ids id) :
    m.entries.contains (s.key id) = plain.entries.contains id := by
  have hsome := congrArg Option.isSome (h.opened hid)
  rw [Option.isSome_map, Option.isSome_map] at hsome
  exact hsome

theorem get?_eq_some (h : s.Mirrors ids f m plain) (hid : ids id) (ht : plain.get? id = some t) :
    ∃ stored, m.get? (s.key id) = some stored ∧ s.decode stored = .ok (t.mapDates f) := by
  have hopened := h.opened hid
  rw [ht] at hopened
  exact Option.map_eq_some_iff.1 hopened

/-- Whatever is kept is opened to a ticket that the other store keeps. -/
theorem exists_plain (h : s.Mirrors ids f m plain) {key : String}
    (hstored : m.get? key = some stored) :
    ∃ id t, ids id ∧ s.key id = key ∧ s.decode stored = .ok (t.mapDates f) ∧
      plain.get? id = some t := by
  obtain ⟨-, id, hid, rfl⟩ := h.keyed hstored
  have hopened := h.opened hid
  rw [hstored] at hopened
  obtain ⟨t, ht, heq⟩ := Option.map_eq_some_iff.1 hopened.symm
  exact ⟨id, t, hid, rfl, heq.symm, ht⟩

/-- An identifier leads to the same ticket. -/
theorem resolve_eq (h : s.Mirrors ids f m plain) (hid : ids id) :
    s.resolve m id = (Sealing.none.resolve plain id).map (Option.map (Ticket.mapDates f)) := by
  have hopened := h.opened hid
  have hkey : Sealing.none.key id = id := key_of_inactive rfl id
  unfold resolve
  rw [hkey]
  by_cases hblank : Text.isBlank id = true
  · rw [if_pos hblank, if_pos hblank]
    rfl
  · rw [if_neg hblank, if_neg hblank]
    cases hplain : plain.get? id with
    | none =>
      rw [hplain] at hopened
      rw [Option.map_eq_none_iff.1 hopened]
      rfl
    | some t =>
      obtain ⟨stored, hstored, hdecode⟩ := h.get?_eq_some hid hplain
      rw [hstored]
      simp only [hdecode]
      rfl

/-- Putting what is opened to a ticket, in the place of putting the ticket. -/
theorem put (h : s.Mirrors ids f m plain) (hsep : s.Separates ids) (ht : s.Admits ids f t)
    (hdecode : s.decode stored = .ok (t.mapDates f)) (hstored : stored.id = s.key t.id) :
    s.Mirrors ids f (m.put (s.key t.id) stored) (plain.put t.id t) where
  writes_eq := congrArg (· + 1) h.writes_eq
  opened {id} hid := by
    rw [MemoryStore.get?_put, MemoryStore.get?_put]
    by_cases heq : id = t.id
    · rw [if_pos heq, if_pos (congrArg s.key heq)]
      exact congrArg some hdecode
    -- Another identifier has another key, so its entry stays in both stores.
    · rw [if_neg heq, if_neg fun hkey => heq (hsep id t.id hid ht.own hkey)]
      exact h.opened hid
  keyed {key other} hother := by
    rw [MemoryStore.get?_put] at hother
    by_cases heq : key = s.key t.id
    · rw [if_pos heq] at hother
      obtain rfl := Option.some.inj hother
      exact ⟨hstored.trans heq.symm, t.id, ht.own, heq.symm⟩
    · rw [if_neg heq] at hother
      exact h.keyed hother
  admits {key other} hother := by
    rw [MemoryStore.get?_put] at hother
    by_cases heq : key = t.id
    · rw [if_pos heq] at hother
      obtain rfl := Option.some.inj hother
      exact ⟨heq.symm, ht⟩
    · rw [if_neg heq] at hother
      exact h.admits hother

/-- Deleting under the storage key, in the place of deleting under the identifier. -/
theorem delete (h : s.Mirrors ids f m plain) (hsep : s.Separates ids) (hid : ids id) :
    s.Mirrors ids f (m.delete (s.key id)) (plain.delete id) where
  writes_eq := by
    rw [MemoryStore.writes_delete, MemoryStore.writes_delete, h.writes_eq, h.contains_eq hid]
  opened {other} hother := by
    rw [MemoryStore.get?_delete, MemoryStore.get?_delete]
    by_cases heq : other = id
    · rw [if_pos heq, if_pos (congrArg s.key heq)]
      rfl
    · rw [if_neg heq, if_neg fun hkey => heq (hsep other id hother hid hkey)]
      exact h.opened hother
  keyed {key stored} hstored := by
    rw [MemoryStore.get?_delete] at hstored
    by_cases heq : key = s.key id
    · rw [if_pos heq] at hstored
      cases hstored
    · rw [if_neg heq] at hstored
      exact h.keyed hstored
  admits {key t} ht := by
    rw [MemoryStore.get?_delete] at ht
    by_cases heq : key = id
    · rw [if_pos heq] at ht
      cases ht
    · rw [if_neg heq] at ht
      exact h.admits ht

/-! ### All tickets of a mirror -/

theorem of_mem_keys (h : s.Mirrors ids f m plain) (hid : id ∈ plain.entries.keys) : ids id := by
  obtain ⟨t, ht⟩ := TextMap.mem_keys_iff.1 hid
  obtain ⟨rfl, hadmits⟩ := h.admits ht
  exact hadmits.own

/-- The keys are the storage keys of the identifiers. -/
theorem keys_perm (h : s.Mirrors ids f m plain) (hsep : s.Separates ids) :
    (plain.entries.keys.map s.key).Perm m.entries.keys := by
  -- No two identifiers share a key, so neither list repeats one, and they have the same members.
  have hnodup : (plain.entries.keys.map s.key).Nodup := by
    apply List.Nodup.map_on _ (TextMap.nodup_keys _)
    intro a ha b hb hkey
    exact hsep a b (h.of_mem_keys ha) (h.of_mem_keys hb) hkey
  rw [List.perm_ext_iff_of_nodup hnodup (TextMap.nodup_keys _)]
  intro key
  rw [List.mem_map, TextMap.mem_keys_iff]
  constructor
  · rintro ⟨id, hid, rfl⟩
    obtain ⟨t, ht⟩ := TextMap.mem_keys_iff.1 hid
    obtain ⟨stored, hstored, -⟩ := h.get?_eq_some (h.of_mem_keys hid) ht
    exact ⟨stored, hstored⟩
  · rintro ⟨stored, hstored⟩
    obtain ⟨id, t, -, hkey, -, ht⟩ := h.exists_plain hstored
    exact ⟨id, TextMap.mem_keys_iff.2 ⟨t, ht⟩, hkey⟩

theorem size_eq (h : s.Mirrors ids f m plain) (hsep : s.Separates ids) : m.size = plain.size := by
  rw [MemoryStore.size, MemoryStore.size, ← TextMap.length_keys, ← TextMap.length_keys,
    ← (h.keys_perm hsep).length_eq, List.length_map]

/-- All tickets are opened, and are the tickets of the other store in some order. -/
theorem decodeAll (h : s.Mirrors ids f m plain) (hsep : s.Separates ids) :
    ∃ ts, s.decodeAll m.entries.values = .ok ts ∧
      ts.Perm (plain.entries.values.map (Ticket.mapDates f)) := by
  let opened (stored : Ticket) : Option Ticket := (s.decode stored).toOption
  refine ⟨m.entries.values.filterMap opened, decodeAll_eq_ok fun stored hstored => ?_, ?_⟩
  · obtain ⟨e, he, rfl⟩ := List.mem_map.1 hstored
    obtain ⟨-, t, -, -, ht, -⟩ := h.exists_plain (TextMap.mem_entries_iff.1 he)
    exact ⟨_, ht⟩
  · -- Both lists are read off along the keys, which are the same up to their order.
    have hkeys := (h.keys_perm hsep).symm.filterMap fun key => (m.entries.get? key).bind opened
    rw [TextMap.filterMap_keys, List.filterMap_map] at hkeys
    refine hkeys.trans (List.Perm.of_eq ?_)
    have hvalues := TextMap.filterMap_keys plain.entries (some ∘ Ticket.mapDates f)
    rw [List.filterMap_eq_map] at hvalues
    rw [← hvalues]
    apply List.filterMap_congr
    intro id hid
    obtain ⟨t, ht⟩ := TextMap.mem_keys_iff.1 hid
    obtain ⟨stored, hstored, hdecode⟩ := h.get?_eq_some (h.of_mem_keys hid) ht
    have hget : m.entries.get? (s.key id) = some stored := hstored
    rw [Function.comp_apply, hget, ht]
    exact congrArg Except.toOption hdecode

/-- What is stored without encryption is stored, with its dates as they are at rest. -/
theorem stores_mapDates (h : s.Mirrors ids f m plain) (ht : Sealing.none.Stores plain t) :
    s.Stores m (t.mapDates f) := by
  have hown : ids t.id := (h.admits ((stores_iff_of_inactive rfl).1 ht).2).2.own
  rw [Stores, Ticket.id_mapDates, h.resolve_eq hown]
  exact congrArg _ ht

/-- What is stored is a ticket that is stored without encryption, with its dates as they are at
rest. -/
theorem stores {u : Ticket} (h : s.Mirrors ids f m plain) (hu : s.Stores m u) :
    ∃ t, u = t.mapDates f ∧ Sealing.none.Stores plain t ∧ s.Admits ids f t := by
  obtain ⟨hblank, stored, hget, hdecode⟩ := resolve_eq_some_iff.1 hu
  obtain ⟨id, t, -, -, hdecode', hplain⟩ := h.exists_plain hget
  obtain rfl := Except.ok.inj (hdecode.symm.trans hdecode')
  obtain ⟨hid, hadmits⟩ := h.admits hplain
  rw [← hid] at hplain
  rw [Ticket.id_mapDates] at hblank
  exact ⟨t, rfl, (stores_iff_of_inactive rfl).2 ⟨hblank, hplain⟩, hadmits⟩

theorem inPlay (h : s.Mirrors ids f m plain) (hid : s.InPlay m id) : ids id := by
  obtain ⟨u, hu, hmentions⟩ := hid
  obtain ⟨t, rfl, -, hadmits⟩ := h.stores hu
  exact hadmits.uses id (.inl (Ticket.mentions_mapDates_iff.1 hmentions))

/-- Sealed tickets are linked as the tickets themselves. -/
theorem wellLinked (h : s.Mirrors ids f m plain) (hplain : Sealing.none.WellLinked plain) :
    s.WellLinked m where
  entry hget := by
    obtain ⟨id, t, -, hkey, hdecode, hkept⟩ := h.exists_plain hget
    obtain ⟨u, hu, hblank, -⟩ := hplain.entry hkept
    obtain rfl := Except.ok.inj ((decode_of_inactive rfl t).symm.trans hu)
    obtain rfl := (h.admits hkept).1
    exact ⟨_, hdecode, by rwa [Ticket.id_mapDates], by rw [Ticket.id_mapDates, hkey]⟩
  hold {key stored} hget hsealed := by
    obtain ⟨id, t, -, -, hdecode, hkept⟩ := h.exists_plain hget
    obtain rfl := Except.ok.inj ((decode_of_not_isSealed s hsealed).symm.trans hdecode)
    exact canHold_mapDates_iff.2 (h.admits hkept).2.hold
  services hu hbody child hchild := by
    obtain ⟨t, rfl, hstores, hadmits⟩ := h.stores hu
    rw [Ticket.session?_mapDates] at hbody
    obtain ⟨own, hown, rfl⟩ := Option.map_eq_some_iff.1 hbody
    rw [h.resolve_eq (hadmits.uses child (.inl (.inr ⟨_, hown, .inl hchild⟩)))]
    rcases hplain.services hstores hown child hchild with hnone | ⟨st, hst, hparent⟩
    · exact .inl (by rw [hnone]; rfl)
    · refine .inr ⟨st.mapDates f, by rw [hst]; rfl, ?_⟩
      rw [Ticket.id_mapDates]
      exact hparent
  proxies hu hbody child hchild := by
    obtain ⟨t, rfl, hstores, hadmits⟩ := h.stores hu
    rw [Ticket.session?_mapDates] at hbody
    obtain ⟨own, hown, rfl⟩ := Option.map_eq_some_iff.1 hbody
    rw [h.resolve_eq (hadmits.uses child (.inl (.inr ⟨_, hown, .inr hchild⟩)))]
    rcases hplain.proxies hstores hown child hchild with hnone | ⟨p, hp, hparent⟩
    · exact .inl (by rw [hnone]; rfl)
    · refine .inr ⟨p.mapDates f, by rw [hp]; rfl, ?_⟩
      rw [Ticket.id_mapDates]
      exact hparent

end Mirrors

end Sealing

/-! ### The simulations -/

namespace Registry

open SignOn.Action (Simulates)

variable {s : Sealing} {ids : String → Prop} {f : Instant → Instant} {ops : List Operation}

/-- Two worlds with the same metrics, in one of which tickets are sealed. -/
def Mirrors (s : Sealing) (ids : String → Prop) (f : Instant → Instant)
    (w plain : World MemoryStore) : Prop :=
  s.Mirrors ids f w.store plain.store ∧ w.metrics = plain.metrics

/-- A registry that seals its tickets simulates one that does not, but for what becomes of dates at
rest. Becoming that a second time changes nothing. -/
theorem simulation_of_separates (hs : s.Reliable) (hsep : s.Separates ids)
    (hidem : ∀ i, f (f i) = f i) (hredate : ∀ i, s.redate (f i) = s.redate i) :
    Simulation f ⟨.memory, s⟩ ⟨.memory, .none⟩ (Mirrors s ids f) ids (s.Admits ids f) where
  idem := hidem
  uses ht hid := ht.uses _ hid
  removeProxy id ht := ht.removeProxy id
  clearProxies ht := ht.clearProxies
  count counter n w plain hw := by
    refine .ok rfl ⟨hw.1, ?_⟩
    exact congrArg (fun metrics : Metrics => metrics.add counter n) hw.2
  find {id} hid w plain hw := by
    rw [find_run (inMemory_memory s), find_run (inMemory_memory .none)]
    rw [show Sealing.resolve s w.store id = _ from hw.1.resolve_eq hid]
    cases hfound : Sealing.none.resolve plain.store id with
    | error e => exact .error hw
    | ok found =>
      refine .ok ⟨rfl, fun t ht => ?_⟩ hw
      subst ht
      obtain ⟨-, stored, hget, hdecode⟩ := Sealing.resolve_eq_some_iff.1 hfound
      obtain rfl := Except.ok.inj hdecode
      exact (hw.1.admits hget).2
  update {t t'} ht hsame w plain hw := by
    have hnone : Sealing.none.Reliable := Sealing.reliable_of_inactive rfl
    have hid : t'.id = t.id := by rw [← Ticket.id_mapDates f t', hsame, Ticket.id_mapDates]
    have hsealed : t'.isSealed = false := by
      rw [← Ticket.isSealed_mapDates f t', hsame, Ticket.isSealed_mapDates, ht.unsealed]
    have hhold : s.CanHold t' := by
      rw [← Sealing.canHold_mapDates_iff (f := f), hsame, Sealing.canHold_mapDates_iff]
      exact ht.hold
    have hdates : t'.mapDates s.redate = t.mapDates f := by
      rw [← ht.redated, ← show s.redate ∘ f = s.redate from funext hredate,
        ← Ticket.mapDates_mapDates, ← Ticket.mapDates_mapDates, hsame]
    obtain ⟨stored, tape, hdecode, hstored, hrun⟩ :=
      update_run (inMemory_memory s) hs hsealed hhold w
    obtain ⟨kept, tape', hkept, -, hrun'⟩ := update_run (inMemory_memory .none) hnone ht.unsealed
      (Sealing.canHold_of_inactive rfl t) plain
    -- Without encryption, the ticket itself is put under its identifier.
    rw [Ticket.mapDates_of_fixed (Sealing.redate_of_inactive rfl)] at hkept
    obtain rfl := Except.ok.inj hkept
    have hdecode' : s.decode stored = .ok (kept.mapDates f) := hdates ▸ hdecode
    rw [hrun, hrun', hid]
    rw [hid] at hstored
    exact .ok rfl ⟨hw.1.put hsep ht hdecode' hstored, hw.2⟩
  deleteOne {id} hid w plain hw := by
    rw [deleteOne_run (inMemory_memory s), deleteOne_run (inMemory_memory .none)]
    exact .ok (hw.1.contains_eq hid) ⟨hw.1.delete hsep hid, hw.2⟩
  deleteAll w plain hw := by
    obtain ⟨m, hrun, hnone, hwrites⟩ := deleteAll_run (s := s) fun h => (hw.1.keyed h).1
    obtain ⟨m', hrun', hnone', hwrites'⟩ := deleteAll_run (s := .none) fun h => (hw.1.admits h).1
    rw [hrun, hrun']
    refine .ok (hw.1.size_eq hsep) ⟨Sealing.mirrors_of_none ?_ hnone hnone', hw.2⟩
    rw [hwrites, hwrites', hw.1.writes_eq, hw.1.size_eq hsep]
  all w plain hw := by
    obtain ⟨ts, hdecode, hperm⟩ := hw.1.decodeAll hsep
    have hplain : Sealing.none.decodeAll plain.store.entries.values =
        .ok plain.store.entries.values := Sealing.decodeAll_of_inactive rfl _
    rw [all_run hdecode, all_run hplain]
    exact .ok hperm hw

/-- Tickets that are added to an empty store are kept as without encryption, if their dates come
back as they are. -/
theorem mirrors_runAll_add (hs : s.Reliable) (hsep : s.Separates ids) {tickets : List Ticket}
    (htickets : ∀ t ∈ tickets, (t.isSealed = false ∧ Layout.ticket.fits t = true) ∧
      (∀ id ∈ t.usedIds, ids id) ∧ ∀ i ∈ t.dates, i.OnMinute)
    (tape tape' : Tape) (metrics : Metrics) :
    Mirrors s ids (fun i => i) (runAll ⟨.memory, s⟩ (tickets.map .add) ⟨.empty, tape, metrics⟩)
      (runAll ⟨.memory, .none⟩ (tickets.map .add) ⟨.empty, tape', metrics⟩) := by
  have hadmits : ∀ t ∈ tickets, s.Admits ids (fun i => i) t := by
    intro t ht
    obtain ⟨⟨hunsealed, hfits⟩, hids, hminute⟩ := htickets t ht
    exact ⟨hunsealed, fun _ => hfits, fun id hid => hids id (Ticket.mem_usedIds_iff.2 hid),
      Ticket.mapDates_congr fun i hi => s.redate_of_onMinute (hminute i hi)⟩
  refine (simulation_of_separates hs hsep (fun _ => rfl) fun _ => rfl).runAll
    (fun op hop t ht => ?_) (fun op hop id hid => ?_)
    ⟨Sealing.mirrors_of_none rfl (fun _ => rfl) fun _ => rfl, rfl⟩
  · obtain ⟨added, hadded, rfl⟩ := List.mem_map.1 hop
    obtain rfl := Option.some.inj ht
    exact hadmits added hadded
  · obtain ⟨added, hadded, rfl⟩ := List.mem_map.1 hop
    exact (hadmits added hadded).uses id hid

/-- Deleting under keys does not depend on how tickets are kept. -/
theorem deleteKeys_eq {σ : Type} (backend : Backend σ) (s s' : Sealing) (keys : List String) :
    deleteKeys ⟨backend, s⟩ keys = deleteKeys ⟨backend, s'⟩ keys := by
  induction keys with
  | nil => rfl
  | cons key rest ih => simp only [deleteKeys, ih]

/-- A registry whose cipher is absent or disabled does exactly what one without encryption does. -/
theorem simulation_of_inactive {σ : Type} (backend : Backend σ) (h : s.isActive = false) :
    Simulation (fun i => i) ⟨backend, s⟩ ⟨backend, .none⟩ Eq (fun _ => True) (fun _ => True) := by
  -- Every step goes through these five functions only.
  have hkey : s.key = Sealing.none.key := by
    funext id
    rw [Sealing.key_of_inactive h, Sealing.key_of_inactive rfl]
  have hdecode : s.decode = Sealing.none.decode := by
    funext t
    rw [Sealing.decode_of_inactive h, Sealing.decode_of_inactive rfl]
  have hdecodeAll : s.decodeAll = Sealing.none.decodeAll := by
    funext list
    rw [Sealing.decodeAll_of_inactive h, Sealing.decodeAll_of_inactive rfl]
  have hencode : s.encode = Sealing.none.encode := by
    funext nonce t
    rw [Sealing.encode_of_inactive h, Sealing.encode_of_inactive rfl]
  have hnonce : s.nonceLength = Sealing.none.nonceLength := by
    funext t
    rw [Sealing.nonceLength_of_inactive h, Sealing.nonceLength_of_inactive rfl]
  exact {
    idem := fun _ => rfl
    uses := fun _ _ => trivial
    removeProxy := fun _ _ => trivial
    clearProxies := fun _ => trivial
    count := fun _ _ => .of_eq rfl fun _ => rfl
    find := fun {id} _ => by
      refine .of_eq ?_ fun _ => ⟨by simp, fun _ _ => trivial⟩
      simp only [find, hkey, hdecode]
    update := fun {t t'} _ hsame => by
      simp only [Ticket.mapDates_self] at hsame
      subst hsame
      refine .of_eq ?_ fun _ => rfl
      simp only [update, encode, hencode, hnonce]
    deleteOne := fun {id} _ => by
      refine .of_eq ?_ fun _ => rfl
      simp only [deleteOne, hkey]
    deleteAll := by
      refine .of_eq ?_ fun _ => rfl
      simp only [deleteAll, deleteKeys_eq backend s .none]
    all := by
      refine .of_eq ?_ fun _ => .of_eq (by simp)
      simp only [Registry.all, hdecodeAll] }

/-! ### What a caller sees -/

/-- From an empty store on, a caller sees no difference but in the dates that change at rest. -/
theorem observe_eq_of_redated (hs : s.Reliable) (hsep : s.Separates (Operation.UsedBy ops))
    (hidem : ∀ i, f (f i) = f i) (hredate : ∀ i, s.redate (f i) = s.redate i)
    (htickets : ∀ op ∈ ops, ∀ t, op.ticket? = some t →
      (t.isSealed = false ∧ s.CanHold t) ∧ t.mapDates s.redate = t.mapDates f)
    (tape tape' : Tape) (metrics : Metrics) :
    observe ⟨.memory, s⟩ ops ⟨.empty, tape, metrics⟩ =
      (observe ⟨.memory, .none⟩ ops ⟨.empty, tape', metrics⟩).map (Observation.mapDates f) := by
  have hempty : Mirrors s (Operation.UsedBy ops) f ⟨.empty, tape, metrics⟩
      ⟨.empty, tape', metrics⟩ :=
    ⟨Sealing.mirrors_of_none rfl (fun _ => rfl) fun _ => rfl, rfl⟩
  -- The simulation is about the identifiers that the operations use.
  refine (simulation_of_separates hs hsep hidem hredate).observe_eq ?_ ?_ ?_ hempty
  · intro op hop t ht
    obtain ⟨⟨hunsealed, hhold⟩, hdates⟩ := htickets op hop t ht
    exact ⟨hunsealed, hhold, fun id hid => ⟨op, hop, op.uses_of_ticket? ht hid⟩, hdates⟩
  · intro op hop id hid
    exact ⟨op, hop, hid⟩
  · intro w plain hw
    exact ⟨hw.1.size_eq hsep, hw.1.writes_eq, hw.2⟩

/-- A caller can tell whether tickets are sealed by leap seconds within a minute only. From an empty
store on, every sequence of operations on tickets that are not sealed themselves is answered as
without encryption, with the same failures, sizes, writes and metrics, whatever random bytes are
drawn; only the dates of the tickets in the answers are as they come back from where they were put
down. If no ticket that was given has a leap second within a minute, the answers are the same. Where
the cipher is absent or disabled, even the stores are the same. -/
theorem observe_sealed (hs : s.Reliable)
    (hfree : s.isActive = true → Sha512.CollisionFree (Operation.UsedBy ops))
    (htickets : ∀ op ∈ ops, ∀ t, op.ticket? = some t → t.isSealed = false ∧ s.CanHold t)
    (tape tape' : Tape) (metrics : Metrics) :
    observe ⟨.memory, s⟩ ops ⟨.empty, tape, metrics⟩ =
        (observe ⟨.memory, .none⟩ ops ⟨.empty, tape', metrics⟩).map
          (Observation.mapDates s.redate) ∧
      ((∀ op ∈ ops, ∀ t, op.ticket? = some t → ∀ i ∈ t.dates, i.OnMinute) →
        observe ⟨.memory, s⟩ ops ⟨.empty, tape, metrics⟩ =
          observe ⟨.memory, .none⟩ ops ⟨.empty, tape', metrics⟩) ∧
      (s.isActive = false → runAll ⟨.memory, s⟩ ops ⟨.empty, tape, metrics⟩ =
        runAll ⟨.memory, .none⟩ ops ⟨.empty, tape, metrics⟩) := by
  have hsep := Sealing.separates_of_collisionFree hfree
  refine ⟨?_, fun hminute => ?_, fun h => ?_⟩
  · exact observe_eq_of_redated hs hsep s.redate_redate s.redate_redate
      (fun op hop t ht => ⟨htickets op hop t ht, rfl⟩) tape tape' metrics
  · -- Dates that are read back unchanged may as well be left as they are.
    rw [observe_eq_of_redated (f := fun i => i) hs hsep (fun _ => rfl) (fun _ => rfl) _ tape tape'
      metrics]
    · rw [funext (Observation.mapDates_of_fixed fun _ => rfl), List.map_id']
    · intro op hop t ht
      refine ⟨htickets op hop t ht, Ticket.mapDates_congr fun i hi => ?_⟩
      exact s.redate_of_onMinute (hminute op hop t ht i hi)
  · exact (simulation_of_inactive .memory h).runAll (fun _ _ _ _ => trivial)
      (fun _ _ _ _ => trivial) rfl

/-- A session with a service ticket, listed and counted, and a logout that removes both. -/
theorem observe_sealed_logout :
    let now : Instant := ⟨⟨2024, 1, 1, by decide⟩, 0, 0, by decide, by decide⟩
    let login : Authentication := ⟨⟨"alice", .empty⟩, [], .empty, .empty, .empty, now⟩
    let root : Session := ⟨"TGT-1", now, .never, login, .ofList [("ST-1", ⟨"app"⟩)], .empty⟩
    let ops : List Operation := [.add (.session root),
      .add (.service ⟨"ST-1", now, .never, "TGT-1", ⟨"app"⟩, false⟩), .find " ", .findProxy "ST-1",
      .all, .sessionCount, .delete "TGT-1", .deleteAll]
    let sealed := observe ⟨.memory, .withCipher (.masking 90 true)⟩ ops
      ⟨.empty, ⟨fun _ => 0, 0⟩, .empty⟩
    sealed = observe ⟨.memory, .none⟩ ops ⟨.empty, ⟨fun _ => 0, 0⟩, .empty⟩ ∧
      sealed.map Observation.size = [1, 2, 2, 2, 2, 2, 0, 0] := by
  intro now login root ops sealed
  have hroot : ∀ id, (Ticket.session root).Uses id → id ∈ [" ", "TGT-1", "ST-1"] := by
    have hkeys : ∀ id ∈ root.services.keys ++ root.proxies.keys, id ∈ [" ", "TGT-1", "ST-1"] := by
      decide
    rintro id ((rfl | ⟨body, hbody, hlisted⟩) | hparent)
    · decide
    · obtain rfl := Option.some.inj hbody
      exact hkeys id (List.mem_append.2 hlisted)
    · cases hparent
  have hused : ∀ id, Operation.UsedBy ops id → id ∈ [" ", "TGT-1", "ST-1"] := by
    rintro id ⟨op, hop, hid⟩
    simp only [ops, List.mem_cons, List.not_mem_nil, or_false] at hop
    rcases hop with rfl | rfl | rfl | rfl | rfl | rfl | rfl | rfl
    · exact hroot id hid
    · rcases hid with (rfl | ⟨body, hbody, -⟩) | hparent
      · decide
      · cases hbody
      · obtain rfl := Option.some.inj hparent
        decide
    · rw [show id = " " from hid]
      decide
    · rw [show id = "ST-1" from hid]
      decide
    · exact hid.elim
    · exact hid.elim
    · rw [show id = "TGT-1" from hid]
      decide
    · exact hid.elim
  have hfree : Sha512.CollisionFree (Operation.UsedBy ops) := by
    have hthree : Sha512.CollisionFree (· ∈ [" ", "TGT-1", "ST-1"]) :=
      Sha512.collisionFree_of_nodup (by decide +kernel)
    exact fun a b ha hb => hthree a b (hused a ha) (hused b hb)
  have htickets : ∀ op ∈ ops, ∀ t, op.ticket? = some t →
      t.isSealed = false ∧ Layout.ticket.fits t = true ∧ ∀ i ∈ t.dates, i.OnMinute := by
    decide
  obtain ⟨-, hexact, -⟩ := observe_sealed (Sealing.reliable_masking 90 true) (fun _ => hfree)
    (fun op hop t ht => ⟨(htickets op hop t ht).1, fun _ => (htickets op hop t ht).2.1⟩)
    ⟨fun _ => 0, 0⟩ ⟨fun _ => 0, 0⟩ .empty
  have hsame := hexact fun op hop t ht => (htickets op hop t ht).2.2
  refine ⟨hsame, ?_⟩
  rw [show sealed = _ from hsame]
  decide

/-- A session that was created in a leap second within a minute is found as one that was created in
the second that follows, if tickets are sealed, and as it was added, if they are not. -/
theorem observe_sealed_withinMinute :
    let leap : Instant := ⟨⟨2024, 1, 1, by decide⟩, 86164, 1333333333, by decide, by decide⟩
    let next : Instant := ⟨⟨2024, 1, 1, by decide⟩, 86165, 333333333, by decide, by decide⟩
    let ticket (created : Instant) : Ticket := .session
      ⟨"TGT-1", created, .never, ⟨⟨"alice", .empty⟩, [], .empty, .empty, .empty, next⟩, .empty,
        .empty⟩
    let ops : List Operation := [.add (ticket leap), .find "TGT-1"]
    let s : Sealing := .withCipher (.masking 90 true)
    let outcomes (s : Sealing) := (observe ⟨.memory, s⟩ ops
      ⟨.empty, ⟨fun _ => 0, 0⟩, .empty⟩).map Observation.outcome
    s.Reliable ∧ Sha512.CollisionFree (Operation.UsedBy ops) ∧
      outcomes s = [.ok .done, .ok (.found (some (ticket next)))] ∧
      outcomes .none = [.ok .done, .ok (.found (some (ticket leap)))] ∧
      ticket leap ≠ ticket next := by
  intro leap next ticket ops s outcomes
  have hs : s.Reliable := Sealing.reliable_masking 90 true
  have hused : ∀ id, Operation.UsedBy ops id → id = "TGT-1" := by
    rintro id ⟨op, hop, hid⟩
    simp only [ops, List.mem_cons, List.not_mem_nil, or_false] at hop
    rcases hop with rfl | rfl
    · rcases hid with (rfl | ⟨body, hbody, hlisted⟩) | hparent
      · rfl
      · obtain rfl := Option.some.inj hbody
        rcases hlisted with hlisted | hlisted <;> cases hlisted
      · cases hparent
    · exact hid
  have hfree : Sha512.CollisionFree (Operation.UsedBy ops) :=
    fun a b ha hb _ => (hused a ha).trans (hused b hb).symm
  have htickets : ∀ op ∈ ops, ∀ t, op.ticket? = some t →
      t.isSealed = false ∧ Layout.ticket.fits t = true := by
    decide
  have hsealed := observe_eq_of_redated hs (Sealing.separates_of_collisionFree fun _ => hfree)
    s.redate_redate s.redate_redate (fun op hop t ht =>
      ⟨⟨(htickets op hop t ht).1, fun _ => (htickets op hop t ht).2⟩, rfl⟩)
    ⟨fun _ => 0, 0⟩ ⟨fun _ => 0, 0⟩ .empty
  have hread : (ticket leap).mapDates .reread = ticket next := by decide
  have houtcomes : outcomes s =
      [.ok .done, .ok (.found (some ((ticket leap).mapDates .reread)))] :=
    (congrArg (List.map Observation.outcome) hsealed).trans rfl
  exact ⟨hs, hfree, hread ▸ houtcomes, rfl, by decide⟩

end Registry

end SignOn
