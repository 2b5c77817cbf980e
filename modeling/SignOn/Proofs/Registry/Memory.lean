import SignOn.Proofs.Sealing.Keys
import SignOn.Proofs.Sealing.RoundTrip
import SignOn.Proofs.Store.Memory
import SignOn.Registry.Cascade

/-!
# Registries over the store in memory

What the operations of a registry do when its backend is the one in memory: a look-up finds what the
identifier resolves to, an update puts one ticket, and a deletion removes what is under the storage
keys of the identifiers.

## Main definitions

* `Registry.InMemory` - the backend is the one in memory, which need not be able to scan
* `Sealing.resolve` - the ticket that an identifier leads to in a store

## Main results

* `Registry.find_run`, `Registry.update_run_of_encodes`, `Registry.deleteOne_run`,
  `Registry.deleteEach_run`, `Registry.deleteAll_run` - one equation per operation
-/

namespace SignOn

/-! ### Tickets in a store -/

namespace Sealing

variable {s : Sealing} {m m' : MemoryStore} {id : String} {t stored : Ticket}

/-- The ticket that an identifier leads to: what is kept under its storage key, opened. A blank
identifier leads nowhere. -/
def resolve (s : Sealing) (m : MemoryStore) (id : String) : Except RegistryError (Option Ticket) :=
  if Text.isBlank id then .ok Option.none
  else
    match m.get? (s.key id) with
    | Option.none => .ok Option.none
    | some stored => (s.decode stored).map some

theorem resolve_of_isBlank (h : Text.isBlank id = true) : s.resolve m id = .ok Option.none := by
  rw [resolve, if_pos h]

theorem resolve_of_get?_eq_none (h : m.get? (s.key id) = Option.none) :
    s.resolve m id = .ok Option.none := by
  unfold resolve
  rw [h, ite_self]

theorem resolve_of_get?_eq_some (hid : Text.isBlank id = false)
    (h : m.get? (s.key id) = some stored) : s.resolve m id = (s.decode stored).map some := by
  simp only [resolve, hid, h, Bool.false_eq_true, if_false]

theorem resolve_eq_some_iff :
    s.resolve m id = .ok (some t) ↔ Text.isBlank id = false ∧
      ∃ stored, m.get? (s.key id) = some stored ∧ s.decode stored = .ok t := by
  constructor
  · intro h
    unfold resolve at h
    split at h
    · cases h
    next hid =>
      split at h
      · cases h
      next stored hget =>
        obtain ⟨t', ht', heq⟩ := map_eq_ok_iff.1 h
        obtain rfl := Option.some.inj heq
        exact ⟨by simpa using hid, stored, hget, ht'⟩
  · rintro ⟨hid, stored, hget, ht⟩
    rw [resolve_of_get?_eq_some hid hget, ht]
    rfl

/-- An identifier leads to the same ticket while the entry under its storage key is the same. -/
theorem resolve_congr (h : m'.get? (s.key id) = m.get? (s.key id)) :
    s.resolve m' id = s.resolve m id := by
  unfold resolve
  rw [h]

/-- Identifiers with the same storage key lead to the same ticket. -/
theorem resolve_of_key_eq {a b : String} (h : s.key a = s.key b) :
    s.resolve m a = s.resolve m b := by
  have hblank : Text.isBlank a = Text.isBlank b := by rw [← isBlank_key s a, h, isBlank_key]
  unfold resolve
  rw [hblank, h]

end Sealing

/-! ### The operations -/

namespace Registry

variable {r : Registry MemoryStore} {id : String} {t : Ticket} {w : World MemoryStore}

/-- Single tickets are read, put and deleted in memory. Whether everything can be scanned is left
open. -/
structure InMemory (r : Registry MemoryStore) : Prop where
  get : r.backend.get = Backend.memory.get
  put : r.backend.put = Backend.memory.put
  delete : r.backend.delete = Backend.memory.delete

theorem inMemory_memory (s : Sealing) : InMemory ⟨.memory, s⟩ := ⟨rfl, rfl, rfl⟩

theorem inMemory_scanless (s : Sealing) : InMemory ⟨Backend.memory.scanless, s⟩ := ⟨rfl, rfl, rfl⟩

/-- A look-up finds what the identifier leads to, and changes nothing. -/
theorem find_run (hr : r.InMemory) (id : String) (w : World MemoryStore) :
    r.find id w = match r.sealing.resolve w.store id with
      | .ok found => .ok found w
      | .error e => .error e w := by
  cases hid : Text.isBlank id with
  | true => rw [find_of_isBlank r hid, Sealing.resolve_of_isBlank hid]
  | false =>
    have hstore : World.onStore (r.backend.get (r.sealing.key id)) w =
        .ok (w.store.get? (r.sealing.key id)) w := by
      rw [hr.get]
      rfl
    simp only [find, hid, Bool.false_eq_true, if_false]
    rw [Action.bind_of_ok hstore]
    cases hget : w.store.get? (r.sealing.key id) with
    | none => rw [Sealing.resolve_of_get?_eq_none hget]; rfl
    | some stored =>
      rw [Sealing.resolve_of_get?_eq_some hid hget]
      simp only
      cases hdecode : r.sealing.decode stored <;> rfl

theorem find_of_resolve (hr : r.InMemory) {found : Option Ticket}
    (h : r.sealing.resolve w.store id = .ok found) : r.find id w = .ok found w := by
  rw [find_run hr, h]

theorem resolve_of_find (hr : r.InMemory) {found : Option Ticket} {w' : World MemoryStore}
    (h : r.find id w = .ok found w') : r.sealing.resolve w.store id = .ok found := by
  rw [find_run hr] at h
  split at h
  next found' hfound =>
    obtain ⟨rfl, -⟩ := EStateM.Result.ok.inj h
    exact hfound
  next => cases h

/-- Encoding draws random bytes, and changes nothing else. -/
theorem encode_run (r : Registry MemoryStore) (t : Ticket) (w : World MemoryStore) :
    ∃ nonce tape, nonce.length = r.sealing.nonceLength t ∧
      r.encode t w = match r.sealing.encode nonce t with
        | .ok stored => .ok stored { w with tape := tape }
        | .error e => .error e { w with tape := tape } := by
  refine ⟨(w.tape.draw (r.sealing.nonceLength t)).1, (w.tape.draw (r.sealing.nonceLength t)).2,
    Tape.length_draw _ _, ?_⟩
  have hdraw : World.draw (r.sealing.nonceLength t) w =
      .ok (w.tape.draw (r.sealing.nonceLength t)).1
        { w with tape := (w.tape.draw (r.sealing.nonceLength t)).2 } := rfl
  rw [encode, Action.bind_of_ok hdraw]
  cases r.sealing.encode (w.tape.draw (r.sealing.nonceLength t)).1 t <;> rfl

/-- What the sealing puts down for a ticket is put under the storage key of the ticket. -/
theorem update_run_of_encodes (hr : r.InMemory) (hs : r.sealing.Opens)
    (ht : r.sealing.isActive = true → t.isSealed = false) (hencodes : r.sealing.Encodes t)
    (w : World MemoryStore) :
    ∃ stored tape, r.sealing.decode stored = .ok (t.mapDates r.sealing.redate) ∧
      stored.id = r.sealing.key t.id ∧ r.update t w =
        .ok () { w with store := w.store.put (r.sealing.key t.id) stored, tape := tape } := by
  obtain ⟨nonce, tape, hnonce, hencode⟩ := encode_run r t w
  obtain ⟨stored, hstored⟩ := hencodes nonce hnonce
  obtain ⟨hdecode, hid, -⟩ := hs.of_encode ht hnonce hstored
  rw [hstored] at hencode
  refine ⟨stored, tape, hdecode, hid, ?_⟩
  rw [update, Action.bind_of_ok hencode, World.onStore, hr.put, hid]
  rfl

/-- A reliable sealing puts every ticket that it can hold, under the storage key of the ticket. -/
theorem update_run (hr : r.InMemory) (hs : r.sealing.Reliable) (ht : t.isSealed = false)
    (hhold : r.sealing.CanHold t) (w : World MemoryStore) :
    ∃ stored tape, r.sealing.decode stored = .ok (t.mapDates r.sealing.redate) ∧
      stored.id = r.sealing.key t.id ∧ r.update t w =
        .ok () { w with store := w.store.put (r.sealing.key t.id) stored, tape := tape } :=
  update_run_of_encodes hr hs.opens (fun _ => ht) (hs.encodes (fun _ => ht) hhold) w

theorem deleteOne_run (hr : r.InMemory) (id : String) (w : World MemoryStore) :
    r.deleteOne id w = .ok (w.store.entries.contains (r.sealing.key id))
      { w with store := w.store.delete (r.sealing.key id) } := by
  rw [deleteOne, World.onStore, hr.delete]
  rfl

/-- Everything is listed, if all of it is opened. -/
theorem all_run {s : Sealing} {ts : List Ticket}
    (h : s.decodeAll w.store.entries.values = .ok ts) : all ⟨.memory, s⟩ w = .ok ts w := by
  have hscan : World.onStore Backend.memory.scan w = .ok w.store.entries.values w := rfl
  rw [all, Action.bind_of_ok hscan, h]
  rfl

/-- Deleting what is under some keys removes all of it, and counts and writes what was there. -/
theorem deleteKeys_run (hr : r.InMemory) (keys : List String) (w : World MemoryStore) :
    ∃ n m, r.deleteKeys keys w = .ok n { w with store := m } ∧ w.store.Removes keys n m ∧
      m.writes = w.store.writes + n := by
  induction keys generalizing w with
  | nil => exact ⟨0, w.store, rfl, .refl _, rfl⟩
  | cons key rest ih =>
    have hfirst : World.onStore (r.backend.delete key) w =
        .ok (w.store.entries.contains key) { w with store := w.store.delete key } := by
      rw [World.onStore, hr.delete]
      rfl
    obtain ⟨n, m, hrest, hremoves, hwrites⟩ := ih { w with store := w.store.delete key }
    refine ⟨_, m, ?_, (MemoryStore.removes_delete _ _).trans hremoves, ?_⟩
    · rw [deleteKeys, Action.bind_of_ok hfirst, Action.bind_of_ok hrest]
      rfl
    · rw [hwrites, MemoryStore.writes_delete, Nat.add_assoc]

/-- Deleting tickets one after the other deletes what is under their storage keys. -/
theorem deleteEach_eq_deleteKeys (r : Registry MemoryStore) (ids : List String) :
    r.deleteEach ids = r.deleteKeys (ids.map r.sealing.key) := by
  induction ids with
  | nil => rfl
  | cons id rest ih => simp only [deleteEach, ih, List.map_cons, deleteKeys, deleteOne]

/-- Deleting tickets one after the other removes all of them, and counts those that were there. -/
theorem deleteEach_run (hr : r.InMemory) (ids : List String) (w : World MemoryStore) :
    ∃ n m, r.deleteEach ids w = .ok n { w with store := m } ∧
      w.store.Removes (ids.map r.sealing.key) n m := by
  obtain ⟨n, m, hrun, hremoves, -⟩ := deleteKeys_run hr (ids.map r.sealing.key) w
  exact ⟨n, m, by rw [deleteEach_eq_deleteKeys, hrun], hremoves⟩

/-- If every stored ticket has its key as its identifier, deleting everything leaves nothing. -/
theorem deleteAll_run {s : Sealing}
    (hid : ∀ {key stored}, w.store.get? key = some stored → stored.id = key) :
    ∃ m, deleteAll ⟨.memory, s⟩ w = .ok w.store.size { w with store := m } ∧
      (∀ key, m.get? key = none) ∧ m.writes = w.store.writes + w.store.size := by
  -- The identifiers that are scanned are the keys, so every key is deleted.
  have hkeys : w.store.entries.values.map Ticket.id = w.store.entries.keys := by
    rw [TextMap.values, TextMap.keys, List.map_map]
    exact List.map_congr_left fun e he => hid (TextMap.mem_entries_iff.1 he)
  obtain ⟨n, m, hrun, hremoves, hwrites⟩ :=
    deleteKeys_run (inMemory_memory s) w.store.entries.keys w
  have hscan : World.onStore Backend.memory.scan w = .ok w.store.entries.values w := rfl
  obtain rfl : n = w.store.size := by
    rw [MemoryStore.size, ← TextMap.length_keys]
    exact hremoves.eq_length (TextMap.nodup_keys _) fun key => TextMap.mem_keys_iff_ne_none.1
  refine ⟨m, ?_, fun key => ?_, hwrites⟩
  · rw [deleteAll, Action.bind_of_ok hscan, hkeys, hrun]
  · rw [hremoves.get?_eq]
    by_cases hkey : key ∈ w.store.entries.keys
    · exact if_pos hkey
    · rw [if_neg hkey]
      rw [TextMap.mem_keys_iff_ne_none] at hkey
      exact Decidable.of_not_not hkey

end Registry

end SignOn
