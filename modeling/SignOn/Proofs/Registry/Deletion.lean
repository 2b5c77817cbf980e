import SignOn.Proofs.Registry.Issuing
import SignOn.Proofs.Registry.Operations

/-!
# What deletions keep

Whatever tickets list and whatever they name as their parents, a deletion does two things to a
store: it deletes what is under a key, and it strikes a proxy-granting ticket off the list of its
parent before it deletes the ticket. A session with proxy-granting tickets is put once more as well,
but then it is deleted at once. So a property of stores that survives these two things survives
every deletion, also one that fails on the way.

A deletion counts every ticket that it deletes. It is only the session put once more that can be
counted without need: if it was gone by then, it is put and deleted, and counted for that.

## Main definitions

* `Registry.ScansQuietly` - a scan changes nothing
* `Sealing.SurvivesDeletion` - a property of stores survives what a deletion does to a store
* `Sealing.Sound` - every entry is opened, to a ticket that can be put down again
* `Sealing.Dependable` - the sealing is reliable, and stores with a property are sound
* `Registry.resurrects` - a deletion puts a session that was gone

## Main results

* `Sealing.SurvivesDeletion.deleteProxy`, `Sealing.SurvivesDeletion.deleteTree` - such a property
  survives deletions
* `Sealing.SurvivesDeletion.exists_delete` - where the sealing is dependable, deletions succeed
* `Sealing.SurvivesDeletion.run`, `Sealing.SurvivesDeletion.runAll` - it survives operations
* `Registry.triple_deleteResolved_gone` - a deleted ticket is gone
-/

namespace SignOn

open SignOn.Action (Triple)

namespace Registry

variable {r : Registry MemoryStore} {id : String} {t : Ticket} {w : World MemoryStore}

/-- Scanning changes nothing, whether it is offered or not. -/
def ScansQuietly (r : Registry MemoryStore) : Prop := ∀ m, r.backend.scan.after m = m

theorem scansQuietly_memory (s : Sealing) : ScansQuietly ⟨.memory, s⟩ := fun _ => rfl

theorem scansQuietly_scanless (s : Sealing) : ScansQuietly ⟨Backend.memory.scanless, s⟩ :=
  fun _ => rfl

/-! ### Single steps -/

variable {P : World MemoryStore → Prop}

/-- A look-up finds what the identifier leads to, or fails, and changes nothing. -/
theorem triple_find (hr : r.InMemory) (id : String) :
    (r.find id).Triple P (fun found w => P w ∧ r.sealing.resolve w.store id = .ok found)
      (fun w => P w ∧ ∃ e, r.sealing.resolve w.store id = .error e) := by
  intro w hw
  rw [find_run hr]
  cases hresolve : r.sealing.resolve w.store id with
  | ok found => exact ⟨hw, hresolve⟩
  | error e => exact ⟨hw, e, hresolve⟩

/-- A look-up changes nothing, whether it fails or not. -/
theorem triple_find_keeps (hr : r.InMemory) (id : String) :
    (r.find id).Triple P (fun found w => P w ∧ r.sealing.resolve w.store id = .ok found) P :=
  Triple.mono (triple_find hr id) (fun _ hw => hw) (fun _ _ hw => hw) fun _ hw => hw.1

theorem triple_findAs (hr : r.InMemory) (id : String) (kind : TicketKind) :
    (r.findAs id kind).Triple P (fun _ => P) P := by
  refine (triple_find_keeps hr id).bind fun found => ?_
  cases found with
  | none => exact .pure fun _ hw => hw.1
  | some t =>
    by_cases hkind : t.kind.answers kind = true
    · simp only [hkind, if_true]
      exact .pure fun _ hw => hw.1
    · simp only [hkind]
      exact .throw fun _ hw => hw.1

/-- What holds after a deletion is what has to hold of the store without the ticket. -/
theorem triple_deleteOne (hr : r.InMemory) (id : String) (Q : Bool → MemoryStore → Prop)
    (E : World MemoryStore → Prop) :
    (r.deleteOne id).Triple
      (fun w => Q (w.store.entries.contains (r.sealing.key id))
        (w.store.delete (r.sealing.key id)))
      (fun removed w => Q removed w.store) E := by
  intro w hw
  rw [deleteOne_run hr]
  exact hw

theorem triple_scan (hquiet : r.ScansQuietly) {Q : MemoryStore → Prop} :
    (World.onStore r.backend.scan).Triple (fun w => Q w.store) (fun _ w => Q w.store)
      (fun w => Q w.store) :=
  World.triple_onStore fun m hm => by rwa [hquiet m]

theorem triple_all (hquiet : r.ScansQuietly) {Q : MemoryStore → Prop} :
    r.all.Triple (fun w => Q w.store) (fun _ w => Q w.store) (fun w => Q w.store) :=
  (triple_scan hquiet).bind fun _ => .ofExcept (fun _ _ _ hw => hw) fun _ hw => hw

theorem triple_countOf (hquiet : r.ScansQuietly) (kind : TicketKind) {Q : MemoryStore → Prop} :
    (r.countOf kind).Triple (fun w => Q w.store) (fun _ w => Q w.store) (fun w => Q w.store) := by
  intro w hw
  have hall := triple_all hquiet (Q := Q) w hw
  unfold countOf
  cases hresult : r.all w <;> rw [hresult] at hall <;> exact hall

theorem triple_count (counter : Counter) (n : Nat) {Q : MemoryStore → Prop}
    {E : World MemoryStore → Prop} :
    (World.count counter n).Triple (fun w => Q w.store) (fun _ w => Q w.store) E :=
  fun _ hw => hw

end Registry

/-! ### Properties that survive -/

/-- A property of stores, for every number of tickets that were deleted before, that survives the
deletion of a key and the deletion of a proxy-granting ticket that was struck off the list of its
parent, which is put again with its dates as they come back. It depends on the tickets alone, not on
the number of writes. -/
structure Sealing.SurvivesDeletion (s : Sealing) (P : Nat → MemoryStore → Prop) : Prop where
  congr : ∀ {n m m'}, m.entries = m'.entries → P n m → P n m'
  delete : ∀ {n m} (key : String), P n m →
    P (n + (m.entries.contains key).toNat) (m.delete key)
  strike : ∀ {n m m'} {p : ProxyTicket} {t : Ticket} {body : Session}, P n m →
    s.resolve m p.parent = .ok (some t) → t.session? = some body →
    s.Puts m ((t.mapDates s.redate).mapSession (·.removeProxy p.id)) m' →
    P (n + (m'.entries.contains (s.key p.id)).toNat) (m'.delete (s.key p.id))

/-- Every entry is opened to a ticket that can be put down again. -/
def Sealing.Sound (s : Sealing) (m : MemoryStore) : Prop :=
  ∀ key stored, m.get? key = some stored → ∃ t, s.decode stored = .ok t ∧ s.CanHold t

/-- Nothing of a sound store fails to be found. -/
theorem Sealing.Sound.resolve_ne_error {s : Sealing} {m : MemoryStore} (hm : s.Sound m)
    (id : String) (e : RegistryError) : s.resolve m id ≠ .error e := by
  intro hfails
  unfold resolve at hfails
  split at hfails
  · cases hfails
  · split at hfails
    · cases hfails
    next stored hget =>
      obtain ⟨t, ht, -⟩ := hm _ stored hget
      rw [ht] at hfails
      cases hfails

theorem Sealing.Sound.canHold_of_resolve {s : Sealing} {m : MemoryStore} (hm : s.Sound m)
    {id : String} {t : Ticket} (h : s.resolve m id = .ok (some t)) : s.CanHold t := by
  obtain ⟨-, stored, hget, ht⟩ := resolve_eq_some_iff.1 h
  obtain ⟨t', ht', hhold⟩ := hm _ stored hget
  obtain rfl := Except.ok.inj (ht.symm.trans ht')
  exact hhold

/-- The sealing is reliable, and whatever has the property is sound. Then nothing fails. -/
def Sealing.Dependable (s : Sealing) (P : Nat → MemoryStore → Prop) : Prop :=
  s.Reliable ∧ ∀ n m, P n m → s.Sound m

namespace World

/-- The property holds for some number of deleted tickets. -/
def Keeps (P : Nat → MemoryStore → Prop) (w : World MemoryStore) : Prop := ∃ n, P n w.store

/-- The property holds after a failure, of which there is none if nothing can fail. -/
def Stops (s : Sealing) (P : Nat → MemoryStore → Prop) (w : World MemoryStore) : Prop :=
  Keeps P w ∧ ¬s.Dependable P

/-- The same for the deletion of a ticket that is put again if it can be held. -/
def StopsAt (s : Sealing) (P : Nat → MemoryStore → Prop) (t : Ticket) (w : World MemoryStore) :
    Prop :=
  Keeps P w ∧ ¬(s.Dependable P ∧ s.CanHold t)

variable {s : Sealing} {P : Nat → MemoryStore → Prop} {w : World MemoryStore} {n : Nat}

theorem Stops.stopsAt (h : Stops s P w) (t : Ticket) : StopsAt s P t w :=
  ⟨h.1, fun hdependable => h.2 hdependable.1⟩

theorem stops_of_resolve {id : String} (hw : P n w.store)
    (h : ∃ e, s.resolve w.store id = .error e) : Stops s P w := by
  obtain ⟨e, hfails⟩ := h
  exact ⟨⟨n, hw⟩, fun hdependable => (hdependable.2 n _ hw).resolve_ne_error id e hfails⟩

end World

namespace Registry

/-- The world in which what a session lists is deleted, and the session itself is put again. -/
def childless (r : Registry MemoryStore) (root : Session) (w : World MemoryStore) :
    World MemoryStore :=
  (r.deleteEachLinked root.proxies.keys).after ((r.deleteServices root).after w)

/-- Whether a deletion puts a session again that is gone by then. -/
def resurrects (r : Registry MemoryStore) : Ticket → World MemoryStore → Bool
  | .session root, w => !root.proxies.isEmpty &&
      !(r.childless root w).store.entries.contains (r.sealing.key root.id)
  | .service _, _ | .proxy _, _ | .sealed _, _ => false

end Registry

namespace Sealing.SurvivesDeletion

variable {r : Registry MemoryStore} {P : Nat → MemoryStore → Prop} {n : Nat} {m m' : MemoryStore}

/-- What was put under a key goes with the key. -/
theorem put_delete {s : Sealing} (h : s.SurvivesDeletion P) (key : String) (stored : Ticket)
    (hm : P n m) : P (n + (m.entries.contains key).toNat) ((m.put key stored).delete key) := by
  -- The entries are the same without the put, but there is one write more.
  refine h.congr ?_ (h.delete key hm)
  rw [MemoryStore.entries_delete, MemoryStore.entries_delete, MemoryStore.entries_put,
    TextMap.erase_insert]

section Deletions

variable (h : r.sealing.SurvivesDeletion P) (hr : r.InMemory) (n : Nat)

include h hr

theorem deleteKeys (keys : List String) :
    (r.deleteKeys keys).Triple (fun w => P n w.store) (fun k w => P (n + k) w.store)
      (World.Stops r.sealing P) := by
  -- The rest starts from the number that the first key leaves.
  induction keys generalizing n with
  | nil => exact .pure fun _ hw => hw
  | cons key rest ih =>
    have hfirst : (World.onStore (r.backend.delete key)).Triple (fun w => P n w.store)
        (fun removed w => P (n + removed.toNat) w.store) (World.Stops r.sealing P) := by
      intro w hw
      rw [World.onStore, hr.delete]
      exact h.delete key hw
    refine hfirst.bind fun removed => (ih (n + removed.toNat)).bind fun others => .pure ?_
    intro w hw
    rwa [← Nat.add_assoc]

theorem deleteServices (root : Session) :
    (r.deleteServices root).Triple (fun w => P n w.store) (fun k w => P (n + k) w.store)
      (World.Stops r.sealing P) := by
  rw [Registry.deleteServices, Registry.deleteEach_eq_deleteKeys]
  exact h.deleteKeys hr n _

/-- Counting whether there was a single ticket. -/
theorem deleteOne (id : String) :
    Triple (fun w => P n w.store) (do return (← r.deleteOne id).toNat)
      (fun k w => P (n + k) w.store) (World.Stops r.sealing P) := by
  have hone := Registry.triple_deleteOne hr id (fun removed m => P (n + removed.toNat) m)
    (World.Stops r.sealing P)
  refine (hone.mono (fun w hw => h.delete _ hw) (fun _ _ hw => hw) fun _ hw => hw).bind ?_
  exact fun removed => .pure fun _ hw => hw

variable (hs : r.sealing.Opens)

include hs

/-- After a ticket is struck off the list of its parent, deleting it is what the property
survives. -/
theorem detach (p : ProxyTicket) :
    (r.detach p).Triple (fun w => P n w.store)
      (fun _ w => P (n + (w.store.entries.contains (r.sealing.key p.id)).toNat)
        (w.store.delete (r.sealing.key p.id)))
      (World.Stops r.sealing P) := by
  refine (Triple.mono (Registry.triple_find hr p.parent) (fun _ hw => hw) (fun _ _ hw => hw)
    fun w hw => World.stops_of_resolve hw.1 hw.2).bind ?_
  -- The parent, if it has a list, is put again without the ticket.
  have hupdate : ∀ {t : Ticket} {body : Session}, t.session? = some body →
      (r.update (t.mapSession (·.removeProxy p.id))).Triple
        (fun w => P n w.store ∧ r.sealing.resolve w.store p.parent = .ok (some t))
        (fun _ w => P (n + (w.store.entries.contains (r.sealing.key p.id)).toNat)
          (w.store.delete (r.sealing.key p.id)))
        (World.Stops r.sealing P) := by
    rintro t body hbody w ⟨hw, hfound⟩
    have hsealed : (t.mapSession (·.removeProxy p.id)).isSealed = false :=
      (Ticket.isSealed_mapSession _ t).trans (Ticket.isSealed_of_session? hbody)
    refine (Registry.triple_update hr hs (fun _ => hsealed) w.store).mono (fun _ hw => hw) ?_ ?_
      w rfl
    · intro _ w' hputs
      rw [Ticket.mapDates_removeProxy] at hputs
      exact h.strike hw hfound hbody hputs
    · rintro w' ⟨heq, hrefused⟩
      refine ⟨⟨n, heq ▸ hw⟩, fun hdependable => hrefused ⟨hdependable.1, ?_⟩⟩
      exact ((hdependable.2 n _ hw).canHold_of_resolve hfound).mapSession fun _ hfits =>
        Layout.fits_removeProxy hfits p.id
  intro found
  cases found with
  | none => exact .pure fun w hw => h.delete _ hw.1
  | some parent =>
    cases parent with
    | session parent => exact hupdate rfl
    | proxy parent => exact hupdate rfl
    | service parent => exact .pure fun w hw => h.delete _ hw.1
    | sealed parent => exact .pure fun w hw => h.delete _ hw.1

theorem deleteProxy (p : ProxyTicket) :
    (r.deleteProxy p).Triple (fun w => P n w.store) (fun k w => P (n + k) w.store)
      (World.Stops r.sealing P) := by
  refine (h.deleteServices hr n p.body).bind fun services => ?_
  refine (h.detach hr (n + services) hs p).bind fun _ => ?_
  refine (Registry.triple_deleteOne hr p.id
    (fun removed m => P (n + services + removed.toNat) m) (World.Stops r.sealing P)).bind ?_
  exact fun removed => .pure fun w hw => by rwa [← Nat.add_assoc]

theorem deleteLinked (id : String) :
    (r.deleteLinked id).Triple (fun w => P n w.store) (fun k w => P (n + k) w.store)
      (World.Stops r.sealing P) := by
  refine (Triple.mono (Registry.triple_find hr id) (fun _ hw => hw) (fun _ _ hw => hw.1)
    fun w hw => World.stops_of_resolve hw.1 hw.2).bind fun found => ?_
  cases found with
  | none => exact .pure fun _ hw => hw
  | some t =>
    cases t with
    | proxy p => exact h.deleteProxy hr n hs p
    | session t => exact h.deleteOne hr n _
    | service t => exact h.deleteOne hr n _
    | sealed t => exact h.deleteOne hr n _

theorem deleteEachLinked (ids : List String) :
    (r.deleteEachLinked ids).Triple (fun w => P n w.store) (fun k w => P (n + k) w.store)
      (World.Stops r.sealing P) := by
  induction ids generalizing n with
  | nil => exact .pure fun _ hw => hw
  | cons id rest ih =>
    refine (h.deleteLinked hr n hs id).bind fun removed => ?_
    refine (ih (n + removed)).bind fun others => .pure ?_
    intro w hw
    rwa [← Nat.add_assoc]

/-- The property also holds before the session is put again. -/
theorem keeps_childless (root : Session) {w : World MemoryStore} (hw : World.Keeps P w) :
    World.Keeps P (r.childless root w) := by
  obtain ⟨n, hw⟩ := hw
  have hservices := (h.deleteServices hr n root).mono (fun _ hw => hw)
    (fun k _ hw => (⟨n + k, hw⟩ : World.Keeps P _)) fun _ hw => hw.1
  obtain ⟨j, hw⟩ := hservices.after hw
  have hlinked := (h.deleteEachLinked hr j hs root.proxies.keys).mono (fun _ hw => hw)
    (fun k _ hw => (⟨j + k, hw⟩ : World.Keeps P _)) fun _ hw => hw.1
  exact hlinked.after hw

/-- After the proxy-granting tickets of a session, deleting the session itself is what the property
survives. It is counted once too often if the session was gone. -/
theorem deleteProxies (root : Session) (w₀ : World MemoryStore) :
    (r.deleteProxies root).Triple
      (fun w => w = (r.deleteServices root).after w₀ ∧ P n w.store)
      (fun k w => ∃ j, k + (w.store.entries.contains (r.sealing.key root.id)).toNat =
          j + (r.resurrects (.session root) w₀).toNat ∧
        P (n + j) (w.store.delete (r.sealing.key root.id)))
      (World.StopsAt r.sealing P (.session root)) := by
  cases hempty : root.proxies.isEmpty with
  | true =>
    rw [Registry.deleteProxies, if_pos hempty]
    refine .pure fun w hw => ⟨_, ?_, h.delete _ hw.2⟩
    simp only [Registry.resurrects, hempty, Bool.not_true, Bool.false_and, Bool.toNat_false,
      Nat.zero_add, Nat.add_zero]
  | false =>
    rw [Registry.deleteProxies, if_neg (by rw [hempty]; exact Bool.false_ne_true)]
    have hlinked := (h.deleteEachLinked hr n hs root.proxies.keys).remember
      ((r.deleteServices root).after w₀)
    refine (hlinked.mono (fun _ hw => hw) (fun _ _ hw => hw) fun _ hw => hw.stopsAt _).bind
      fun removed => ?_
    -- The property is kept for the store before the put, which need not have it after the put.
    refine Triple.bind (Q := fun _ w => ∃ stored,
      w.store = (r.childless root w₀).store.put (r.sealing.key root.id) stored ∧
        P (n + removed) (r.childless root w₀).store) ?_ fun _ => .pure ?_
    · rintro w ⟨rfl, hw⟩
      refine (Registry.triple_update hr hs (t := .session root.clearProxies) (fun _ => rfl)
        (r.childless root w₀).store).mono (fun _ hw => hw) ?_ ?_ _ rfl
      · rintro _ w' ⟨stored, hput, -⟩
        exact ⟨stored, hput, hw⟩
      · rintro w' ⟨heq, hrefused⟩
        refine ⟨⟨n + removed, heq ▸ hw⟩, fun ⟨hdependable, hhold⟩ => hrefused ⟨hdependable.1, ?_⟩⟩
        exact hhold.mapSession fun _ => Layout.fits_clearProxies
    · -- The session is there, as it was put; what is deleted then is what was there before.
      rintro w ⟨stored, hput, hw⟩
      refine ⟨removed + ((r.childless root w₀).store.entries.contains
        (r.sealing.key root.id)).toNat, ?_, ?_⟩
      · rw [hput, MemoryStore.entries_put, TextMap.contains, TextMap.get?_insert_self]
        simp only [Registry.resurrects, hempty]
        cases (r.childless root w₀).store.entries.contains (r.sealing.key root.id) <;> rfl
      · rw [hput, ← Nat.add_assoc]
        exact h.put_delete _ stored hw

theorem deleteTree (t : Ticket) (w₀ : World MemoryStore) :
    (r.deleteTree t).Triple (fun w => w = w₀ ∧ P n w.store)
      (fun k w => ∃ j, k = j + (r.resurrects t w₀).toNat ∧ P (n + j) w.store)
      (World.StopsAt r.sealing P t) := by
  -- Only sessions are put again.
  have hplain : ∀ {f : Action (World MemoryStore) Nat},
      f.Triple (fun w => P n w.store) (fun k w => P (n + k) w.store) (World.Stops r.sealing P) →
      f.Triple (fun w => w = w₀ ∧ P n w.store)
        (fun k w => ∃ j, k = j + false.toNat ∧ P (n + j) w.store)
        (World.StopsAt r.sealing P t) := by
    intro f hf
    exact hf.mono (fun _ hw => hw.2) (fun k _ hw => ⟨k, rfl, hw⟩) fun _ hw => hw.stopsAt t
  cases t with
  | session root =>
    have hservices := (h.deleteServices hr n root).remember w₀
    refine (hservices.mono (fun _ hw => hw) (fun _ _ hw => hw) fun _ hw => hw.stopsAt _).bind
      fun services => ?_
    refine (h.deleteProxies hr (n + services) hs root w₀).bind fun proxies => ?_
    refine (Registry.triple_deleteOne hr root.id (fun removed m => ∃ j, proxies + removed.toNat =
      j + (r.resurrects (.session root) w₀).toNat ∧ P (n + services + j) m)
      (World.StopsAt r.sealing P (.session root))).bind fun removed => .pure ?_
    rintro w ⟨j, hcount, hw⟩
    refine ⟨services + j, ?_, by rwa [← Nat.add_assoc]⟩
    rw [Nat.add_assoc, hcount, Nat.add_assoc]
  | proxy p => exact hplain (h.deleteProxy hr n hs p)
  | service t => exact hplain (h.deleteOne hr n t.id)
  | sealed t => exact hplain (h.deleteOne hr n t.id)

/-- The number of deleted tickets that is given is counted too. -/
theorem deleteResolved (t : Ticket) (w₀ : World MemoryStore) :
    (r.deleteResolved t).Triple (fun w => w = w₀ ∧ P n w.store)
      (fun k w => ∃ j, k = j + (r.resurrects t w₀).toNat ∧ P (n + j) w.store)
      (World.StopsAt r.sealing P t) := by
  refine (h.deleteTree hr n hs t w₀).bind fun removed => ?_
  refine (Registry.triple_count .deleted removed
    (Q := fun m => ∃ j, removed = j + (r.resurrects t w₀).toNat ∧ P (n + j) m)).bind ?_
  exact fun _ => .pure fun _ hw => hw

end Deletions

/-! ### Operations -/

section Operations

variable (h : r.sealing.SurvivesDeletion P) (hr : r.InMemory) (hs : r.sealing.Opens)

include h hr hs

theorem keeps_deleteResolved (t : Ticket) :
    (r.deleteResolved t).Triple (World.Keeps P) (fun _ => World.Keeps P) (World.Keeps P) := by
  rintro w ⟨n, hw⟩
  refine ((h.deleteResolved hr n hs t w).mono (fun _ hw => hw) ?_ fun _ hw => hw.1) w ⟨rfl, hw⟩
  rintro _ w' ⟨j, -, hw'⟩
  exact ⟨n + j, hw'⟩

/-- What is found can be put again, if the store is sound. -/
theorem keeps_delete (id : String) :
    (r.delete id).Triple (World.Keeps P) (fun _ => World.Keeps P) (World.Stops r.sealing P) := by
  refine (Triple.mono (Registry.triple_find hr id) (fun _ hw => hw) (fun _ _ hw => hw)
    fun w ⟨⟨n, hw⟩, hfails⟩ => World.stops_of_resolve hw hfails).bind fun found => ?_
  cases found with
  | none => exact .pure fun _ hw => hw.1
  | some t =>
    rintro w ⟨⟨n, hw⟩, hfound⟩
    refine ((h.deleteResolved hr n hs t w).mono (fun _ hw => hw) ?_ ?_) w ⟨rfl, hw⟩
    · rintro _ w' ⟨j, -, hw'⟩
      exact ⟨n + j, hw'⟩
    · rintro w' ⟨hkeeps, hfails⟩
      refine ⟨hkeeps, fun hdependable => hfails ⟨hdependable, ?_⟩⟩
      exact (hdependable.2 n _ hw).canHold_of_resolve hfound

/-- Where nothing can fail, deletions succeed. -/
theorem exists_deleteResolved (hdependable : r.sealing.Dependable P) {w : World MemoryStore}
    (hw : World.Keeps P w) {t : Ticket} (ht : r.sealing.CanHold t) :
    ∃ k w', r.deleteResolved t w = .ok k w' := by
  obtain ⟨n, hw⟩ := hw
  cases hresult : r.deleteResolved t w with
  | ok k w' => exact ⟨k, w', rfl⟩
  | error e w' =>
    -- A failure contradicts what holds where deletions stop.
    have hstops := (h.deleteResolved hr n hs t w).of_error ⟨rfl, hw⟩ hresult
    exact absurd ⟨hdependable, ht⟩ hstops.2

theorem exists_delete (hdependable : r.sealing.Dependable P) {w : World MemoryStore}
    (hw : World.Keeps P w) (id : String) : ∃ k w', r.delete id w = .ok k w' := by
  cases hresult : r.delete id w with
  | ok k w' => exact ⟨k, w', rfl⟩
  | error e w' => exact absurd hdependable ((h.keeps_delete hr hs id).of_error hw hresult).2

omit hs in
theorem keeps_deleteOne (id : String) :
    (r.deleteOne id).Triple (World.Keeps P) (fun _ => World.Keeps P) (World.Keeps P) := by
  rintro w ⟨n, hw⟩
  exact Registry.triple_deleteOne hr id (fun _ m => ∃ n, P n m) _ w ⟨_, h.delete _ hw⟩

omit hs in
theorem keeps_deleteAll (hquiet : r.ScansQuietly) :
    r.deleteAll.Triple (World.Keeps P) (fun _ => World.Keeps P) (World.Keeps P) := by
  refine (Registry.triple_scan hquiet (Q := fun m => ∃ n, P n m)).bind fun stored => ?_
  rintro w ⟨n, hw⟩
  refine (h.deleteKeys hr n (stored.map Ticket.id)).mono (fun _ hw => hw) ?_ (fun _ hw => hw.1) w hw
  exact fun k w' hw' => ⟨n + k, hw'⟩

omit h in
/-- A ticket that is given is put, and then the property has to hold for some number again. -/
theorem keeps_update {t : Ticket} (ht : r.sealing.isActive = true → t.isSealed = false)
    (hput : ∀ {n m m'}, P n m → r.sealing.Puts m (t.mapDates r.sealing.redate) m' →
      ∃ n', P n' m') :
    (r.update t).Triple (World.Keeps P) (fun _ => World.Keeps P) (World.Keeps P) := by
  rintro w ⟨n, hw⟩
  refine (Registry.triple_update hr hs ht w.store).mono (fun _ hw => hw) ?_ ?_ w rfl
  · exact fun _ w' hputs => hput hw hputs
  · exact fun w' heq => ⟨n, heq.1 ▸ hw⟩

/-- What survives deletions survives every operation, if it survives that the ticket is put that the
registry is given. -/
theorem run (hquiet : r.ScansQuietly) (op : Operation)
    (hgiven : ∀ t, op.ticket? = some t → (r.sealing.isActive = true → t.isSealed = false) ∧
      ∀ {n m m'}, P n m → r.sealing.Puts m (t.mapDates r.sealing.redate) m' → ∃ n', P n' m') :
    (op.run r).Triple (World.Keeps P) (fun _ => World.Keeps P) (World.Keeps P) := by
  have hupdate : ∀ {t}, op.ticket? = some t → _ := fun ht =>
    keeps_update hr hs (hgiven _ ht).1 (hgiven _ ht).2
  have hfind := fun id => (Registry.triple_find (P := World.Keeps P) hr id).mono
    (fun _ hw => hw) (fun _ _ hw => hw.1) fun _ hw => hw.1
  cases op with
  | add t =>
    exact ((hupdate rfl).bind fun _ => Registry.triple_count _ 1 (Q := fun m => ∃ n, P n m)).map _
  | update t => exact (hupdate rfl).map _
  | find id => exact (hfind id).map _
  | findAs id kind => exact (Registry.triple_findAs hr id kind).map _
  | findService id => exact ((Registry.triple_findAs hr id .service).map _).map _
  | findProxy id => exact ((Registry.triple_findAs hr id .proxy).map _).map _
  | isOrphaned t => exact ((hfind t.parent).map _).map _
  | delete id =>
    have hkeeps := h.keeps_delete hr hs id
    exact (hkeeps.mono (fun _ hw => hw) (fun _ _ hw => hw) fun _ hw => hw.1).map _
  | deleteResolved t => exact (h.keeps_deleteResolved hr hs t).map _
  | deleteOne id => exact (h.keeps_deleteOne hr id).map _
  | deleteAll => exact (h.keeps_deleteAll hr hquiet).map _
  | all => exact (Registry.triple_all hquiet (Q := fun m => ∃ n, P n m)).map _
  | sessionCount => exact (Registry.triple_countOf hquiet .session (Q := fun m => ∃ n, P n m)).map _
  | serviceCount => exact (Registry.triple_countOf hquiet .service (Q := fun m => ∃ n, P n m)).map _

theorem runAll (hquiet : r.ScansQuietly) {ops : List Operation}
    (hgiven : ∀ op ∈ ops, ∀ t, op.ticket? = some t →
      (r.sealing.isActive = true → t.isSealed = false) ∧
        ∀ {n m m'}, P n m → r.sealing.Puts m (t.mapDates r.sealing.redate) m' → ∃ n', P n' m')
    {w : World MemoryStore} (hw : World.Keeps P w) : World.Keeps P (r.runAll ops w) := by
  induction ops generalizing w with
  | nil => exact hw
  | cons op ops ih =>
    have hstep := h.run hr hs hquiet op (hgiven op List.mem_cons_self)
    exact ih (fun op hop => hgiven op (List.mem_cons_of_mem _ hop)) (hstep.after hw)

end Operations

end Sealing.SurvivesDeletion

/-! ### The deleted ticket -/

namespace Registry

variable {r : Registry MemoryStore}

theorem triple_deleteOne_gone (hr : r.InMemory) (id : String) :
    (r.deleteOne id).Triple (fun _ => True)
      (fun _ w => w.store.get? (r.sealing.key id) = none) (fun _ => True) := by
  refine (triple_deleteOne hr id (fun _ m => m.get? (r.sealing.key id) = none)
    fun _ => True).mono (fun w _ => ?_) (fun _ _ hw => hw) fun _ hw => hw
  rw [MemoryStore.get?_delete, if_pos rfl]

/-- Every deletion ends with the ticket itself, so that is gone if nothing failed before. -/
theorem triple_deleteResolved_gone (hr : r.InMemory) (t : Ticket) :
    (r.deleteResolved t).Triple (fun _ => True)
      (fun _ w => w.store.get? (r.sealing.key t.id) = none) (fun _ => True) := by
  have hlast : ∀ k : Bool → Nat, Triple (fun _ => True)
      (do return k (← r.deleteOne t.id))
      (fun _ w => w.store.get? (r.sealing.key t.id) = none) (fun _ => True) := fun k =>
    (triple_deleteOne_gone hr t.id).bind fun _ => .pure fun _ hw => hw
  have htree : (r.deleteTree t).Triple (fun _ => True)
      (fun _ w => w.store.get? (r.sealing.key t.id) = none) (fun _ => True) := by
    -- The kinds differ only in what is deleted before.
    cases t with
    | session root =>
      exact (Triple.trivial _).bind fun _ => (Triple.trivial _).bind fun _ => hlast _
    | proxy p => exact (Triple.trivial _).bind fun _ => (Triple.trivial _).bind fun _ => hlast _
    | service t => exact hlast _
    | sealed t => exact hlast _
  refine htree.bind fun removed => (triple_count .deleted removed
    (Q := fun m => m.get? (r.sealing.key t.id) = none)).bind ?_
  exact fun _ => .pure fun _ hw => hw

end Registry

end SignOn
