import SignOn.Proofs.Registry.Deletion

/-!
# Deletions in any store

Callers may give a registry any ticket, with any links: to itself, in cycles, to nothing, to tickets
of another kind, or shared by several parents. They may also ask it to delete a ticket that they
found before and that was changed or deleted since. What a registry did with such tickets is always
faithful: what an entry is opened to stands under its storage key. That is enough for deletions to
gain no key, and to leave nothing of the ticket itself. They succeed if every ticket that was given
can be put down again.

They also count right, with one exception. A session that lists proxy-granting tickets is put once
more before it is deleted, also if it was gone by then, and then it is counted for that.

## Main definitions

* `Sealing.Faithful` - what an entry is opened to stands under its storage key

## Main results

* `Registry.faithful_runAll`, `Registry.sound_runAll` - whatever a registry did, the store is
  faithful, and it is sound
* `Registry.delete_robust` - what a deletion by identifier does to any such store
* `Registry.deleteResolved_count` - what a deletion of any ticket counts
* `Registry.deleteResolved_stale` - one that counts a ticket that was not there
-/

namespace SignOn

namespace Sealing

variable {s : Sealing} {m m' : MemoryStore} {t : Ticket} {id : String}

/-- What an entry is opened to stands under its storage key. Blank identifiers are not excluded, and
neither are entries that cannot be opened. -/
def Faithful (s : Sealing) (m : MemoryStore) : Prop :=
  ∀ key stored t, m.get? key = some stored → s.decode stored = .ok t → key = s.key t.id

theorem faithful_empty : s.Faithful .empty := fun key stored t hget => by cases hget

theorem Faithful.delete (hm : s.Faithful m) (key : String) : s.Faithful (m.delete key) :=
  fun other stored t hget => hm other stored t (MemoryStore.get?_of_get?_delete hget)

theorem Faithful.puts (hm : s.Faithful m) (h : s.Puts m t m') : s.Faithful m' := by
  intro key stored u hget hu
  rcases h.cases_of_get? hget with ⟨hkey, ht, -⟩ | hget
  · obtain rfl := Except.ok.inj (ht.symm.trans hu)
    exact hkey
  · exact hm key stored u hget hu

/-- A ticket that was found stands under its storage key, which is that of the identifier. -/
theorem Faithful.get?_of_resolve (hm : s.Faithful m) (h : s.resolve m id = .ok (some t)) :
    s.key id = s.key t.id ∧ ∃ stored, m.get? (s.key t.id) = some stored := by
  obtain ⟨-, stored, hget, ht⟩ := resolve_eq_some_iff.1 h
  have hkey := hm _ stored t hget ht
  exact ⟨hkey, stored, hkey ▸ hget⟩

theorem sound_empty : s.Sound .empty := fun key stored hget => by cases hget

theorem Sound.delete (hm : s.Sound m) (key : String) : s.Sound (m.delete key) :=
  fun other stored hget => hm other stored (MemoryStore.get?_of_get?_delete hget)

theorem Sound.puts (hm : s.Sound m) (h : s.Puts m t m') (hhold : s.CanHold t) : s.Sound m' := by
  intro key stored hget
  rcases h.cases_of_get? hget with ⟨-, ht, -⟩ | hget
  · exact ⟨t, ht, hhold⟩
  · exact hm key stored hget

theorem survivesDeletion_sound (s : Sealing) : s.SurvivesDeletion fun _ m => s.Sound m where
  congr := by
    rintro - ⟨entries, writes⟩ ⟨-, writes'⟩ rfl hm
    exact hm
  delete key hm := hm.delete key
  strike hm hfound _ hputs := by
    refine (hm.puts hputs ?_).delete _
    exact (canHold_mapDates_iff.2 (hm.canHold_of_resolve hfound)).mapSession
      fun _ hfits => Layout.fits_removeProxy hfits _

theorem survivesDeletion_faithful (s : Sealing) : s.SurvivesDeletion fun _ m => s.Faithful m where
  congr := by
    rintro - ⟨entries, writes⟩ ⟨-, writes'⟩ rfl hm
    exact hm
  delete key hm := hm.delete key
  strike hm _ _ hputs := (hm.puts hputs).delete _

/-- A deletion in a faithful store gains no key, and the difference of the sizes is counted. -/
theorem survivesDeletion_sheds (s : Sealing) (m₀ : MemoryStore) :
    s.SurvivesDeletion fun n m => s.Faithful m ∧ m₀.Sheds n m where
  congr := by
    rintro n ⟨entries, writes⟩ ⟨-, writes'⟩ rfl ⟨hm, hsheds⟩
    exact ⟨hm, hsheds.keys_subset, hsheds.size_eq⟩
  delete key hm := ⟨hm.1.delete key, hm.2.delete key⟩
  strike := by
    rintro n m m' p t body ⟨hm, hsheds⟩ hfound hbody hputs
    refine ⟨(hm.puts hputs).delete _, ?_⟩
    -- The parent is put where it was found, so its key is there already.
    have hid : ((t.mapDates s.redate).mapSession (·.removeProxy p.id)).id = t.id :=
      (Ticket.id_mapSession (·.removeProxy p.id) _ fun _ => rfl).trans (Ticket.id_mapDates _ t)
    obtain ⟨stored, rfl, -⟩ := hputs
    obtain ⟨-, old, hold⟩ := hm.get?_of_resolve hfound
    rw [hid]
    exact (hsheds.put hold).delete _

end Sealing

namespace Registry

variable {r : Registry MemoryStore} {ops : List Operation} {w w' : World MemoryStore} {id : String}
  {t : Ticket} {n : Nat}

/-! ### Any run -/

/-- Whatever a registry did to a faithful store, the store is faithful. With an active cipher, this
is about tickets that are not sealed already; those of another registry could be opened to
anything. -/
theorem faithful_runAll (hr : r.InMemory) (hquiet : r.ScansQuietly) (hs : r.sealing.Opens)
    (htickets : ∀ op ∈ ops, ∀ t, op.ticket? = some t →
      r.sealing.isActive = true → t.isSealed = false)
    (hw : r.sealing.Faithful w.store) : r.sealing.Faithful (r.runAll ops w).store := by
  have hkeeps := r.sealing.survivesDeletion_faithful.runAll hr hs hquiet (fun op hop t ht =>
    ⟨htickets op hop t ht, fun {n _ _} hm hputs => ⟨n, hm.puts hputs⟩⟩) ⟨0, hw⟩
  obtain ⟨-, hafter⟩ := hkeeps
  exact hafter

/-- Whatever a registry did to a sound store with tickets that can be held, the store is sound. -/
theorem sound_runAll (hr : r.InMemory) (hquiet : r.ScansQuietly) (hs : r.sealing.Opens)
    (htickets : ∀ op ∈ ops, ∀ t, op.ticket? = some t →
      r.sealing.isActive = true → t.isSealed = false)
    (hhold : ∀ op ∈ ops, ∀ t, op.ticket? = some t → r.sealing.CanHold t)
    (hw : r.sealing.Sound w.store) : r.sealing.Sound (r.runAll ops w).store := by
  have hkeeps := r.sealing.survivesDeletion_sound.runAll hr hs hquiet (fun op hop t ht =>
    ⟨htickets op hop t ht, fun {n _ _} hm hputs =>
      ⟨n, hm.puts hputs (Sealing.canHold_mapDates_iff.2 (hhold op hop t ht))⟩⟩) ⟨0, hw⟩
  obtain ⟨-, hafter⟩ := hkeeps
  exact hafter

/-! ### Deletions of any ticket -/

/-- A deletion gains no key, and counts the keys that are lost, and the session that was gone. -/
theorem sheds_of_deleteResolved (hr : r.InMemory) (hs : r.sealing.Opens)
    (hw : r.sealing.Faithful w.store) (h : r.deleteResolved t w = .ok n w') :
    w.store.Sheds (w.store.lost w'.store).length w'.store ∧
      n = (w.store.lost w'.store).length + (r.resurrects t w).toNat := by
  obtain ⟨j, rfl, -, hsheds⟩ := ((r.sealing.survivesDeletion_sheds w.store).deleteResolved hr 0 hs t
    w).of_ok ⟨rfl, hw, .refl _⟩ h
  rw [Nat.zero_add] at hsheds
  obtain rfl := hsheds.eq_length
  exact ⟨hsheds, rfl⟩

/-- A session that is gone, and lists proxy-granting tickets, is put again. -/
theorem resurrects_of_get?_eq_none (hr : r.InMemory) (hs : r.sealing.Opens)
    (hw : r.sealing.Faithful w.store) {root : Session} (hproxies : root.proxies.isEmpty = false)
    (hgone : w.store.get? (r.sealing.key root.id) = none) :
    r.resurrects (.session root) w = true := by
  -- The deletions before the put gain no key, so the session is still gone then.
  have hlost : (r.childless root w).store.entries.contains (r.sealing.key root.id) = false := by
    obtain ⟨n, -, hsheds⟩ := (r.sealing.survivesDeletion_sheds w.store).keeps_childless hr hs root
      ⟨0, hw, .refl _⟩
    rw [← Bool.not_eq_true, ← TextMap.mem_keys_iff_contains]
    exact fun hmem => TextMap.mem_keys_iff_ne_none.1 (hsheds.keys_subset hmem) hgone
  rw [resurrects, hproxies, hlost]
  rfl

/-- From an empty store on, a registry may be given any tickets, with any links; with an active
cipher they are not sealed already. Then a deletion of any ticket, as it was found at any time
before or never, gains no key. It counts the tickets that are gone afterwards, and once more the
session that it put again, where that was gone. It succeeds if the sealing is reliable and can hold
the tickets. -/
theorem deleteResolved_count (hr : r.InMemory) (hquiet : r.ScansQuietly) (hs : r.sealing.Opens)
    (htickets : ∀ op ∈ ops, ∀ t, op.ticket? = some t →
      r.sealing.isActive = true → t.isSealed = false)
    (tape : Tape) (metrics : Metrics) (t : Ticket) :
    let w := r.runAll ops ⟨.empty, tape, metrics⟩
    (r.sealing.Reliable → (∀ op ∈ ops, ∀ t, op.ticket? = some t → r.sealing.CanHold t) →
      r.sealing.CanHold t → ∃ n w', r.deleteResolved t w = .ok n w') ∧
    ∀ n w', r.deleteResolved t w = .ok n w' →
      w'.store.entries.keys ⊆ w.store.entries.keys ∧
      n = (w.store.lost w'.store).length + (r.resurrects t w).toNat ∧
      ∀ root, t = .session root → root.proxies.isEmpty = false →
        w.store.get? (r.sealing.key root.id) = none → n = (w.store.lost w'.store).length + 1 := by
  intro w
  refine ⟨fun hreliable hhold ht => ?_, fun n w' hdelete => ?_⟩
  · have hsound := sound_runAll hr hquiet hs htickets hhold (w := ⟨.empty, tape, metrics⟩)
      Sealing.sound_empty
    exact r.sealing.survivesDeletion_sound.exists_deleteResolved hr hs
      ⟨hreliable, fun _ _ hm => hm⟩ ⟨0, hsound⟩ ht
  have hw := faithful_runAll hr hquiet hs htickets (w := ⟨.empty, tape, metrics⟩)
    Sealing.faithful_empty
  obtain ⟨hsheds, hcount⟩ := sheds_of_deleteResolved hr hs hw hdelete
  refine ⟨hsheds.keys_subset, hcount, ?_⟩
  rintro root rfl hproxies hgone
  rw [hcount, resurrects_of_get?_eq_none hr hs hw hproxies hgone, Bool.toNat_true]

/-- A session as it is stored, and its proxy-granting ticket: two tickets are counted, and two are
gone. -/
theorem deleteResolved_count_session :
    let now : Instant := ⟨⟨2024, 1, 1, by decide⟩, 0, 0, by decide, by decide⟩
    let login : Authentication := ⟨⟨"alice", .empty⟩, [], .empty, .empty, .empty, now⟩
    let root : Session := ⟨"TGT-1", now, .never, login, .empty, .ofList [("PGT-2", ⟨"p"⟩)]⟩
    let proxy : ProxyTicket := ⟨.fresh "PGT-2" login now .never, "TGT-1", ⟨"p"⟩⟩
    let ops : List Operation := [.add (.session root), .add (.proxy proxy)]
    let w := runAll ⟨.memory, .none⟩ ops ⟨.empty, ⟨fun _ => 0, 0⟩, .empty⟩
    ∃ w', deleteResolved ⟨.memory, .none⟩ (.session root) w = .ok 2 w' ∧
      w'.store.entries.keys ⊆ w.store.entries.keys ∧ (w.store.lost w'.store).length = 2 := by
  intro now login root proxy ops w
  have hdelete := Action.eq_ok_of_outcome
    (show (deleteResolved ⟨.memory, .none⟩ (.session root)).outcome w = .ok 2 by decide)
  obtain ⟨-, hcounts⟩ := @deleteResolved_count ⟨.memory, .none⟩ ops (inMemory_memory _)
    (scansQuietly_memory _) (Sealing.opens_of_inactive rfl)
    (fun _ _ _ _ hactive => by cases hactive) ⟨fun _ => 0, 0⟩ .empty (.session root)
  obtain ⟨hkeys, hcount, -⟩ := hcounts _ _ hdelete
  rw [show resurrects ⟨.memory, .none⟩ (.session root) w = false by decide] at hcount
  exact ⟨_, hdelete, hkeys, hcount.symm⟩

/-- A session is found, and then deleted alone. Deleting it again as it was found counts two
tickets, but only its proxy-granting ticket was there and is gone. -/
theorem deleteResolved_stale :
    let now : Instant := ⟨⟨2024, 1, 1, by decide⟩, 0, 0, by decide, by decide⟩
    let login : Authentication := ⟨⟨"alice", .empty⟩, [], .empty, .empty, .empty, now⟩
    let root : Session := .fresh "TGT-1" login now .never
    let proxy : ProxyTicket := ⟨.fresh "PGT-2" login now .never, "TGT-1", ⟨"p"⟩⟩
    let w := runAll ⟨.memory, .none⟩ [.add (.session root), .add (.proxy proxy),
      .update (.session (root.addProxy "PGT-2" ⟨"p"⟩))] ⟨.empty, ⟨fun _ => 0, 0⟩, .empty⟩
    ∃ seen w₁ w', find ⟨.memory, .none⟩ "TGT-1" w = .ok (some seen) w ∧
      deleteOne ⟨.memory, .none⟩ "TGT-1" w = .ok true w₁ ∧
      deleteResolved ⟨.memory, .none⟩ seen w₁ = .ok 2 w' ∧
      w₁.store.entries.keys = ["PGT-2"] ∧ w'.store.entries.keys = [] ∧
      (w₁.store.lost w'.store).length = 1 := by
  intro now login root proxy w
  have hfind : find ⟨.memory, .none⟩ "TGT-1" w =
      .ok (some (.session (root.addProxy "PGT-2" ⟨"p"⟩))) w :=
    find_of_resolve (inMemory_memory _) (by decide)
  have hfirst := Action.eq_ok_of_outcome
    (show (deleteOne ⟨.memory, .none⟩ "TGT-1").outcome w = .ok true by decide)
  have hsecond := Action.eq_ok_of_outcome
    (show (deleteResolved ⟨.memory, .none⟩ (.session (root.addProxy "PGT-2" ⟨"p"⟩))).outcome
      ((deleteOne ⟨.memory, .none⟩ "TGT-1").after w) = .ok 2 by decide)
  exact ⟨_, _, _, hfind, hfirst, hsecond, by decide, by decide, by decide⟩

/-! ### Deletions by identifier -/

/-- A deletion that succeeds found nothing and did nothing, or deleted what it found. -/
theorem cases_of_delete (hr : r.InMemory) (h : r.delete id w = .ok n w') :
    r.find id w = .ok none w ∧ n = 0 ∧ w' = w ∨
      ∃ t, r.find id w = .ok (some t) w ∧ r.deleteResolved t w = .ok n w' := by
  obtain ⟨found, w₁, hfind, hrest⟩ := Action.bind_eq_ok_iff.1 h
  have hstay := find_of_resolve hr (resolve_of_find hr hfind)
  obtain ⟨-, rfl⟩ := EStateM.Result.ok.inj (hfind.symm.trans hstay)
  cases found with
  | none =>
    obtain ⟨rfl, rfl⟩ := EStateM.Result.ok.inj hrest
    exact .inl ⟨hfind, rfl, rfl⟩
  | some t => exact .inr ⟨t, hfind, hrest⟩

theorem delete_of_find_none (h : r.find id w = .ok none w) : r.delete id w = .ok 0 w := by
  rw [delete, Action.bind_of_ok h]
  rfl

/-- A deletion of a ticket that is found counts at least one ticket, and leaves nothing under the
identifier. -/
theorem find_of_deleteResolved (hr : r.InMemory) (hs : r.sealing.Opens)
    (hw : r.sealing.Faithful w.store) (hfind : r.find id w = .ok (some t) w)
    (h : r.deleteResolved t w = .ok n w') : 0 < n ∧ r.find id w' = .ok none w' := by
  obtain ⟨hkey, stored, hstored⟩ := hw.get?_of_resolve (resolve_of_find hr hfind)
  have hgone : w'.store.get? (r.sealing.key t.id) = none :=
    (triple_deleteResolved_gone hr t).of_ok trivial h
  constructor
  · have hlost := List.length_pos_of_mem (MemoryStore.mem_lost hstored hgone)
    rw [(sheds_of_deleteResolved hr hs hw h).2]
    exact Nat.add_pos_left hlost _
  · exact find_of_resolve hr (Sealing.resolve_of_get?_eq_none (hkey ▸ hgone))

/-- From an empty store on, a registry may be given any tickets, with any links; with an active
cipher they are not sealed already. Then a deletion by any identifier counts nothing exactly if the
identifier is blank or leads to nothing, and then it changes nothing. If it counts anything, the
identifier leads to nothing afterwards, and deleting again counts nothing. Whether it succeeds or
fails, it gains no key; and it succeeds if the sealing is reliable and can hold the tickets. -/
theorem delete_robust (hr : r.InMemory) (hquiet : r.ScansQuietly) (hs : r.sealing.Opens)
    (htickets : ∀ op ∈ ops, ∀ t, op.ticket? = some t →
      r.sealing.isActive = true → t.isSealed = false)
    (tape : Tape) (metrics : Metrics) (id : String) :
    let w := r.runAll ops ⟨.empty, tape, metrics⟩
    ((∃ w', r.delete id w = .ok 0 w') ↔ Text.isBlank id = true ∨ r.find id w = .ok none w) ∧
      (∀ w', r.delete id w = .ok 0 w' → w' = w) ∧
      (∀ n w', r.delete id w = .ok n w' → 0 < n →
        r.find id w' = .ok none w' ∧ r.delete id w' = .ok 0 w') ∧
      ((r.delete id).after w).store.entries.keys ⊆ w.store.entries.keys ∧
      (r.sealing.Reliable → (∀ op ∈ ops, ∀ t, op.ticket? = some t → r.sealing.CanHold t) →
        ∃ n w', r.delete id w = .ok n w') := by
  intro w
  have hw : r.sealing.Faithful w.store :=
    faithful_runAll hr hquiet hs htickets (w := ⟨.empty, tape, metrics⟩) Sealing.faithful_empty
  -- A ticket that is found is counted.
  have hnothing : ∀ w', r.delete id w = .ok 0 w' → r.find id w = .ok none w ∧ w' = w := by
    intro w' hdelete
    rcases cases_of_delete hr hdelete with ⟨hfind, -, rfl⟩ | ⟨t, hfind, hresolved⟩
    · exact ⟨hfind, rfl⟩
    · exact absurd (find_of_deleteResolved hr hs hw hfind hresolved).1 (Nat.lt_irrefl 0)
  refine ⟨⟨?_, ?_⟩, fun w' hdelete => (hnothing w' hdelete).2, ?_, ?_, fun hreliable hhold => ?_⟩
  · rintro ⟨w', hdelete⟩
    exact .inr (hnothing w' hdelete).1
  · rintro (hblank | hfind)
    · exact ⟨w, delete_of_find_none (find_of_isBlank r hblank w)⟩
    · exact ⟨w, delete_of_find_none hfind⟩
  · intro n w' hdelete hpos
    rcases cases_of_delete hr hdelete with ⟨-, rfl, -⟩ | ⟨t, hfind, hresolved⟩
    · exact absurd hpos (Nat.lt_irrefl 0)
    · have hfind' := (find_of_deleteResolved hr hs hw hfind hresolved).2
      exact ⟨hfind', delete_of_find_none hfind'⟩
  · have hsurvives := r.sealing.survivesDeletion_sheds w.store
    have hkeeps := (hsurvives.keeps_delete hr hs id).mono (fun _ hw => hw) (fun _ _ hw => hw)
      fun _ hw => hw.1
    obtain ⟨n, -, hsheds⟩ := hkeeps.after ⟨0, hw, .refl _⟩
    exact hsheds.keys_subset
  · have hsound := sound_runAll hr hquiet hs htickets hhold (w := ⟨.empty, tape, metrics⟩)
      Sealing.sound_empty
    exact r.sealing.survivesDeletion_sound.exists_delete hr hs ⟨hreliable, fun _ _ hm => hm⟩
      ⟨0, hsound⟩ id

/-- A session that lists itself, a blank identifier and one that leads to nothing, and a
proxy-granting ticket that is its own parent and lists the session. -/
theorem delete_robust_loops :
    let now : Instant := ⟨⟨2024, 1, 1, by decide⟩, 0, 0, by decide, by decide⟩
    let login : Authentication := ⟨⟨"alice", .empty⟩, [], .empty, .empty, .empty, now⟩
    let root : Session := ⟨"TGT-1", now, .never, login, .ofList [(" ", ⟨"a"⟩), ("TGT-1", ⟨"a"⟩)],
      .ofList [("PGT-1", ⟨"p"⟩), ("PGT-2", ⟨"p"⟩), ("TGT-1", ⟨"p"⟩)]⟩
    let proxy : ProxyTicket :=
      ⟨⟨"PGT-1", now, .never, login, .empty, .ofList [("TGT-1", ⟨"p"⟩)]⟩, "PGT-1", ⟨"p"⟩⟩
    let ops : List Operation := [.add (.session root), .add (.proxy proxy)]
    let w := runAll ⟨.memory, .none⟩ ops ⟨.empty, ⟨fun _ => 0, 0⟩, .empty⟩
    ∃ n w', delete ⟨.memory, .none⟩ "TGT-1" w = .ok n w' ∧ 0 < n ∧
      find ⟨.memory, .none⟩ "TGT-1" w' = .ok none w' ∧
      delete ⟨.memory, .none⟩ "TGT-1" w' = .ok 0 w' := by
  intro now login root proxy ops w
  have hdelete := Action.eq_ok_of_outcome
    (show (delete ⟨.memory, .none⟩ "TGT-1").outcome w = .ok 3 by decide +kernel)
  obtain ⟨-, -, hagain, -⟩ := @delete_robust ⟨.memory, .none⟩ ops (inMemory_memory _)
    (scansQuietly_memory _) (Sealing.opens_of_inactive rfl)
    (fun _ _ _ _ hactive => by cases hactive) ⟨fun _ => 0, 0⟩ .empty "TGT-1"
  obtain ⟨hfind, hzero⟩ := hagain _ _ hdelete (by decide)
  exact ⟨3, _, hdelete, by decide, hfind, hzero⟩

end Registry

end SignOn
