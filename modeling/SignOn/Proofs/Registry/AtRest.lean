import SignOn.Proofs.Registry.Operations
import SignOn.Proofs.Store.Triple
import SignOn.Store.Probe

/-!
# What is at rest

Several registries may share one store, each with a cipher of its own or with none. They may be
given any tickets, also sealed ones, their ciphers may fail on anything, and calls of the backend
may be refused, so that an operation ends half way. Still every ticket at rest stands under its own
identifier, and if every one of the registries encrypts, every ticket at rest is sealed. So any
registry can delete everything by the identifiers that a scan shows, also one that cannot decode a
single ticket.

## Main definitions

* `Backend.Relays` - calls do to a store in memory what they ask for, or nothing
* `MemoryStore.Holds` - every ticket stands under its own identifier, and has a property
* `Registry.runShared` - operations of several registries, one after the other

## Main results

* `Backend.Relays.probed`, `Backend.Relays.scanless` - such backends stay such behind a probe, and
  without their scan
* `Registry.simulation_of_relays` - every step keeps what a store holds
* `Registry.upholds_run`, `Registry.upholds_runShared` - so does every operation, and every sequence
  of them
* `Registry.at_rest_of_runShared` - what is at rest after any operations of any registries
-/

namespace SignOn

open SignOn.Action (Simulates Triple)

/-! ### Properties of states that actions keep -/

namespace Action

variable {σ τ α β : Type}

/-- An action that keeps a property simulates itself where the property holds. -/
theorem Simulates.of_triple {P : σ → Prop} {f : Action σ α}
    (h : Triple P f (fun _ => P) P) : Simulates (fun s t => s = t ∧ P s) Eq f f := by
  rintro s _ ⟨rfl, hs⟩
  cases hf : f s with
  | ok a t => exact .ok rfl ⟨rfl, h.of_ok hs hf⟩
  | error e t => exact .error ⟨rfl, h.of_error hs hf⟩

/-- What is made of the value does not matter for the state. -/
theorem after_map (f : Action σ α) (k : α → β) (s : σ) : (k <$> f).after s = f.after s := by
  unfold after
  cases hf : f s with
  | ok a t =>
    have hmap : (k <$> f) s = .ok (k a) t := bind_of_ok hf _
    rw [hmap]
  | error e t =>
    have hmap : (k <$> f) s = .error e t := bind_of_error hf _
    rw [hmap]

end Action

/-- A call is passed on, or nothing happens to the store behind the probe. -/
theorem Probed.store_after_pass {σ α : Type} (call : StoreCall) (action : Action σ α)
    (p : Probed σ) : ((Probed.pass call action).after p).store = p.store ∨
      ((Probed.pass call action).after p).store = action.after p.store := by
  unfold Action.after Probed.pass
  rcases PlannedFault.meet call.kind p.faults with ⟨faults, reason | reason⟩
  · refine .inr ?_
    cases action p.store <;> rfl
  · exact .inl rfl

/-! ### Backends over a store in memory -/

namespace Backend

variable {σ : Type} {b : Backend σ} {view : σ → MemoryStore}

/-- Behind a backend there is a store in memory. A call does to it what it asks for, or nothing;
whether the call then succeeds, and what it answers, is left open. -/
structure Relays (b : Backend σ) (view : σ → MemoryStore) : Prop where
  get : ∀ key s, view ((b.get key).after s) = view s
  put : ∀ key t s, view ((b.put key t).after s) = view s ∨
    view ((b.put key t).after s) = (view s).put key t
  delete : ∀ key s, view ((b.delete key).after s) = view s ∨
    view ((b.delete key).after s) = (view s).delete key
  scan : ∀ s, view (b.scan.after s) = view s

theorem relays_memory : Relays .memory id where
  get _ _ := rfl
  put _ _ _ := .inr rfl
  delete _ _ := .inr rfl
  scan _ := rfl

theorem Relays.scanless (h : b.Relays view) : b.scanless.Relays view where
  get := h.get
  put := h.put
  delete := h.delete
  scan _ := rfl

theorem Relays.probed (h : b.Relays view) (rank : Ticket → String) :
    (b.probed rank).Relays fun p => view p.store where
  get key p := by
    rcases Probed.store_after_pass (.get key) (b.get key) p with heq | heq
    · exact congrArg view heq
    · exact (congrArg view heq).trans (h.get key p.store)
  put key t p := by
    rcases Probed.store_after_pass (.put key) (b.put key t) p with heq | heq
    · exact .inl (congrArg view heq)
    · exact (h.put key t p.store).imp (congrArg view heq).trans (congrArg view heq).trans
  delete key p := by
    rcases Probed.store_after_pass (.delete key) (b.delete key) p with heq | heq
    · exact .inl (congrArg view heq)
    · exact (h.delete key p.store).imp (congrArg view heq).trans (congrArg view heq).trans
  scan p := by
    -- The order in which a scan lists what it finds is no matter of the store.
    have hscan : ((b.probed rank).scan.after p) = (Probed.pass .scan b.scan).after p :=
      Action.after_map _ _ p
    rw [hscan]
    rcases Probed.store_after_pass .scan b.scan p with heq | heq
    · exact congrArg view heq
    · exact (congrArg view heq).trans (h.scan p.store)

end Backend

/-! ### What a store holds -/

namespace MemoryStore

variable {m : MemoryStore} {allows : Ticket → Prop}

/-- Every ticket stands under its own identifier, and has a property. -/
def Holds (m : MemoryStore) (allows : Ticket → Prop) : Prop :=
  ∀ key stored, m.get? key = some stored → stored.id = key ∧ allows stored

theorem holds_empty : Holds .empty allows := fun key stored hget => by cases hget

theorem Holds.put (h : m.Holds allows) {t : Ticket} (ht : allows t) :
    (m.put t.id t).Holds allows := by
  intro key stored hget
  rw [get?_put] at hget
  split at hget
  next hkey =>
    obtain rfl := Option.some.inj hget
    exact ⟨hkey.symm, ht⟩
  next => exact h key stored hget

theorem Holds.delete (h : m.Holds allows) (key : String) : (m.delete key).Holds allows :=
  fun other stored hget => h other stored (get?_of_get?_delete hget)

end MemoryStore

/-- An active sealing puts down sealed tickets only. -/
theorem Sealing.isSealed_of_encode {s : Sealing} (hactive : s.isActive = true) {nonce : List UInt8}
    {t stored : Ticket} (h : s.encode nonce t = .ok stored) : stored.isSealed = true := by
  cases hsealed : t.isSealed with
  | true =>
    rw [encode_of_isSealed s nonce hsealed] at h
    obtain rfl := Except.ok.inj h
    exact hsealed
  | false =>
    obtain ⟨c, hc⟩ := isActive_iff.1 hactive
    obtain ⟨-, payload, -, -, rfl⟩ := (encode_eq_ok_iff hc hsealed).1 h
    rfl

namespace Registry

variable {σ : Type} {view : σ → MemoryStore} {allows : Ticket → Prop} {r : Registry σ}

/-- What the store behind the backend holds. -/
def Upholds (view : σ → MemoryStore) (allows : Ticket → Prop) (w : World σ) : Prop :=
  (view w.store).Holds allows

section Steps

variable (hb : r.backend.Relays view)

include hb

theorem upholds_find (id : String) :
    (r.find id).Triple (Upholds view allows) (fun _ => Upholds view allows)
      (Upholds view allows) := by
  have hget : (World.onStore (r.backend.get (r.sealing.key id))).Triple (Upholds view allows)
      (fun _ => Upholds view allows) (Upholds view allows) :=
    World.triple_onStore (P := fun s => (view s).Holds allows) fun s hs => by rwa [hb.get]
  cases hblank : Text.isBlank id with
  | true =>
    intro w hw
    rw [find_of_isBlank r hblank]
    exact hw
  | false =>
    simp only [find, hblank]
    refine hget.bind fun found => ?_
    cases found with
    | none => exact .pure fun _ hw => hw
    | some stored =>
      exact (Triple.ofExcept (fun _ _ _ hw => hw) fun _ hw => hw).bind fun _ => .pure fun _ hw => hw

/-- What is put stands under its own identifier, whatever it is. -/
theorem upholds_update
    (hencode : ∀ nonce t stored, r.sealing.encode nonce t = .ok stored → allows stored)
    (t : Ticket) :
    (r.update t).Triple (Upholds view allows) (fun _ => Upholds view allows)
      (Upholds view allows) := by
  have hstored : (r.encode t).Triple (Upholds view allows)
      (fun stored w => Upholds view allows w ∧ allows stored) (Upholds view allows) := by
    refine Triple.bind (Q := fun _ => Upholds view allows) (fun _ hw => hw) fun nonce => ?_
    exact .ofExcept (fun stored h _ hw => ⟨hw, hencode nonce t stored h⟩) fun _ hw => hw
  refine hstored.bind fun stored => ?_
  rintro w ⟨hw, hallows⟩
  refine World.triple_onStore (P := fun s => (view s).Holds allows) (fun s hs => ?_) w hw
  rcases hb.put stored.id stored s with heq | heq
  · rwa [heq]
  · rw [heq]
    exact hs.put hallows

theorem upholds_onDelete (key : String) :
    (World.onStore (r.backend.delete key)).Triple (Upholds view allows)
      (fun _ => Upholds view allows) (Upholds view allows) := by
  refine World.triple_onStore (P := fun s => (view s).Holds allows) fun s hs => ?_
  rcases hb.delete key s with heq | heq
  · rwa [heq]
  · rw [heq]
    exact hs.delete key

theorem upholds_onScan :
    (World.onStore r.backend.scan).Triple (Upholds view allows) (fun _ => Upholds view allows)
      (Upholds view allows) :=
  World.triple_onStore (P := fun s => (view s).Holds allows) fun s hs => by rwa [hb.scan]

theorem upholds_deleteAll :
    r.deleteAll.Triple (Upholds view allows) (fun _ => Upholds view allows)
      (Upholds view allows) := by
  refine (upholds_onScan hb).bind fun stored => ?_
  induction stored.map Ticket.id with
  | nil => exact .pure fun _ hw => hw
  | cons key rest ih =>
    exact (upholds_onDelete hb key).bind fun _ => ih.bind fun _ => .pure fun _ hw => hw

/-- Every step of a registry keeps what the store holds, so the registry simulates itself where the
store holds it. -/
theorem simulation_of_relays
    (hencode : ∀ nonce t stored, r.sealing.encode nonce t = .ok stored → allows stored) :
    Simulation (fun i => i) r r (fun w w' => w = w' ∧ Upholds view allows w) (fun _ => True)
      fun _ => True where
  idem _ := rfl
  uses _ _ := trivial
  removeProxy _ _ := trivial
  clearProxies _ := trivial
  count _ _ := .of_triple fun _ hw => hw
  find _ := (Simulates.of_triple (upholds_find hb _)).mono fun _ _ heq =>
    ⟨by simp [heq], fun _ _ => trivial⟩
  update _ hsame := by
    simp only [Ticket.mapDates_self] at hsame
    exact hsame ▸ .of_triple (upholds_update hb hencode _)
  deleteOne _ := .of_triple (upholds_onDelete hb _)
  deleteAll := .of_triple (upholds_deleteAll hb)
  all := by
    have hall : r.all.Triple (Upholds view allows) (fun _ => Upholds view allows)
        (Upholds view allows) :=
      (upholds_onScan hb).bind fun _ => .ofExcept (fun _ _ _ hw => hw) fun _ hw => hw
    exact (Simulates.of_triple hall).mono fun _ _ heq => .of_eq (by simp [heq])

/-- Whatever is asked of a registry, and whether it fails or not, the store holds what it held. -/
theorem upholds_run
    (hencode : ∀ nonce t stored, r.sealing.encode nonce t = .ok stored → allows stored)
    (op : Operation) {w : World σ} (hw : Upholds view allows w) :
    Upholds view allows ((op.run r).after w) := by
  have hsame : Simulates _ _ (op.run r) (op.run r) :=
    (simulation_of_relays hb hencode).run (fun _ _ => trivial) fun _ _ => trivial
  exact (hsame.after ⟨rfl, hw⟩).2

end Steps

/-! ### Several registries -/

/-- The world after operations of several registries on one backend or on backends over one store,
one after the other. One that fails does not end the sequence. -/
def runShared : List (Registry σ × Operation) → World σ → World σ
  | [], w => w
  | (r, op) :: rest, w => runShared rest ((op.run r).after w)

theorem upholds_runShared {calls : List (Registry σ × Operation)}
    (hcalls : ∀ call ∈ calls, call.1.backend.Relays view)
    (hencode : ∀ call ∈ calls, ∀ nonce t stored,
      call.1.sealing.encode nonce t = .ok stored → allows stored)
    {w : World σ} (hw : Upholds view allows w) : Upholds view allows (runShared calls w) := by
  induction calls generalizing w with
  | nil => exact hw
  | cons call rest ih =>
    obtain ⟨hb, hrest⟩ := List.forall_mem_cons.1 hcalls
    obtain ⟨hfirst, hencode⟩ := List.forall_mem_cons.1 hencode
    exact ih hrest hencode (upholds_run hb hfirst call.2 hw)

/-- Whatever several registries did to one store that was empty at first, with whatever ciphers, and
whether they failed or were stopped on the way: every ticket at rest stands under its own
identifier, and is sealed if all of the registries encrypt. So a registry with any cipher that
deletes everything gives the number of all tickets, and leaves none. -/
theorem at_rest_of_runShared {calls : List (Registry σ × Operation)}
    (hcalls : ∀ call ∈ calls, call.1.backend.Relays view) {w : World σ}
    (hw : view w.store = .empty) :
    let m := view (runShared calls w).store
    (∀ key stored, m.get? key = some stored → stored.id = key) ∧
    ((∀ call ∈ calls, call.1.sealing.isActive = true) →
      ∀ key stored, m.get? key = some stored → stored.isSealed = true) ∧
    ∀ (s : Sealing) (tape : Tape) (metrics : Metrics), ∃ m',
      deleteAll ⟨.memory, s⟩ ⟨m, tape, metrics⟩ = .ok m.size ⟨m', tape, metrics⟩ ∧
        m'.entries = .empty := by
  intro m
  have hstart : ∀ allows, Upholds view allows w := fun allows => by
    rw [Upholds, hw]
    exact MemoryStore.holds_empty
  have hid : ∀ key stored, m.get? key = some stored → stored.id = key := by
    have hholds : Upholds view (fun _ => True) (runShared calls w) :=
      upholds_runShared hcalls (fun _ _ _ _ _ _ => trivial) (hstart _)
    exact fun key stored hget => (hholds key stored hget).1
  refine ⟨hid, fun hactive key stored hget => ?_, fun s tape metrics => ?_⟩
  · have hholds : Upholds view (fun t => t.isSealed = true) (runShared calls w) :=
      upholds_runShared hcalls (fun call hcall nonce t stored hencode =>
        Sealing.isSealed_of_encode (hactive call hcall) hencode) (hstart _)
    exact (hholds key stored hget).2
  · obtain ⟨m', hrun, hnone, -⟩ := deleteAll_run (s := s) (w := ⟨m, tape, metrics⟩)
      fun {key stored} hget => hid key stored hget
    exact ⟨m', hrun, TextMap.ext hnone⟩

/-- Three registries behind one probe, two of them with different ciphers and one whose cipher
refuses to encrypt. The backend refuses to delete a service ticket in the middle of a logout, and a
ticket is put that was sealed somewhere else. A registry without a cipher deletes all three
tickets. -/
theorem at_rest_of_runShared_refused :
    let now : Instant := ⟨⟨2024, 1, 1, by decide⟩, 0, 0, by decide, by decide⟩
    let login : Authentication := ⟨⟨"alice", .empty⟩, [], .empty, .empty, .empty, now⟩
    let root : Session := ⟨"TGT-1", now, .never, login, .ofList [("ST-3", ⟨"app"⟩)],
      .ofList [("PGT-2", ⟨"p"⟩)]⟩
    let proxy : ProxyTicket := ⟨.fresh "PGT-2" login now .never, "TGT-1", ⟨"p"⟩⟩
    let registry (c : Cipher) : Registry (Probed MemoryStore) :=
      ⟨Backend.memory.probed Ticket.id, .withCipher c⟩
    let calls : List (Registry (Probed MemoryStore) × Operation) :=
      [(registry (.masking 90 true), .add (.session root)),
        (registry (.masking 7 true), .add (.proxy proxy)),
        (registry (.masking 90 true), .delete "TGT-1"),
        (registry (.refusing (.masking 90 true) (some "no key") none), .update (.session root)),
        (registry (.masking 7 true), .update (.sealed ⟨"elsewhere", [1, 2]⟩))]
    let w : World (Probed MemoryStore) :=
      ⟨⟨.empty, [], [⟨.delete, 0, "down"⟩]⟩, ⟨fun _ => 0, 0⟩, .empty⟩
    let m := (runShared calls w).store.store
    (∀ key stored, m.get? key = some stored → stored.id = key ∧ stored.isSealed = true) ∧
      ∃ m', deleteAll ⟨.memory, .none⟩ ⟨m, ⟨fun _ => 0, 0⟩, .empty⟩ =
        .ok 3 ⟨m', ⟨fun _ => 0, 0⟩, .empty⟩ ∧ m'.entries = .empty := by
  intro now login root proxy registry calls w m
  have hcalls : ∀ call ∈ calls, call.1.backend = Backend.memory.probed Ticket.id ∧
      call.1.sealing.isActive = true := by
    simp only [calls, List.forall_mem_cons]
    exact ⟨⟨rfl, rfl⟩, ⟨rfl, rfl⟩, ⟨rfl, rfl⟩, ⟨rfl, rfl⟩, ⟨rfl, rfl⟩, fun _ hcall => by cases hcall⟩
  have hrelays : ∀ call ∈ calls, call.1.backend.Relays Probed.store := by
    intro call hcall
    rw [(hcalls call hcall).1]
    exact Backend.relays_memory.probed Ticket.id
  obtain ⟨hid, hsealed, hempties⟩ := at_rest_of_runShared hrelays (w := w) rfl
  obtain ⟨m', hrun, hnone⟩ := hempties .none ⟨fun _ => 0, 0⟩ .empty
  rw [show (runShared calls w).store.store.size = 3 by decide +kernel] at hrun
  refine ⟨fun key stored hget => ⟨hid key stored hget, ?_⟩, m', hrun, hnone⟩
  exact hsealed (fun call hcall => (hcalls call hcall).2) key stored hget

end Registry

end SignOn
