import SignOn.Proofs.Registry.Deletion

/-!
# Deleting what was added

A ticket is added under the identifier of what is stored for it, and deleted under the storage key
of its own identifier. These are the same, unless the ticket is sealed already and a cipher is
active. Such a ticket is stored as it is, under an identifier that was made a storage key when the
ticket was sealed, while its deletion makes a key of it once more. So an added ticket is deleted and
counted again, but for a ticket that was sealed before: its entry stays.

## Main definitions

* `Sealing.place` - the key under which a ticket is put

## Main results

* `Sealing.place_eq_key_iff` - when a ticket is put under the key under which it is deleted
* `Registry.put_of_add` - what adding a ticket puts where
* `Registry.deleteResolved_after_add` - what is left of an added ticket that is deleted at once
* `Registry.deleteResolved_misses` - a ticket that is added and not deleted
-/

namespace SignOn

/-- A deletion removes what is under a key only if it counts it. -/
theorem MemoryStore.mem_keys_or_pos_delete {key : String} {n : Nat} {m : MemoryStore}
    (other : String) (h : key ∈ m.entries.keys ∨ 0 < n) :
    key ∈ (m.delete other).entries.keys ∨ 0 < n + (m.entries.contains other).toNat := by
  rcases h with hkey | hn
  · by_cases hother : key = other
    · rw [← hother, TextMap.mem_keys_iff_contains.1 hkey]
      exact .inr (Nat.succ_pos n)
    · rw [MemoryStore.entries_delete, TextMap.mem_keys_erase]
      exact .inl ⟨hother, hkey⟩
  · exact .inr (Nat.add_pos_left hn _)

namespace Sealing

variable {s : Sealing} {t stored : Ticket} {nonce : List UInt8}

/-- The key under which a ticket is put. A ticket that is sealed already has it as its
identifier. -/
def place (s : Sealing) (t : Ticket) : String := if t.isSealed then t.id else s.key t.id

theorem place_of_isSealed (s : Sealing) (h : t.isSealed = true) : s.place t = t.id := if_pos h

theorem place_of_not_isSealed (s : Sealing) (h : t.isSealed = false) : s.place t = s.key t.id :=
  if_neg (by rw [h]; exact Bool.false_ne_true)

/-- Only the key of a sealed ticket under an active cipher is another one. -/
theorem place_eq_key_iff : s.place t = s.key t.id ↔
    (t.isSealed = true → s.isActive = true → Text.isBlank t.id = false →
      Sha512.hexDigest (Utf8.encode t.id) = t.id) := by
  cases hsealed : t.isSealed with
  | false => simp [place_of_not_isSealed s hsealed]
  | true =>
    rw [place_of_isSealed s hsealed]
    cases hactive : s.isActive with
    | false => simp [key_of_inactive hactive]
    | true =>
      cases hblank : Text.isBlank t.id with
      | true => simp [key_of_isBlank s hblank]
      | false => simp [key_of_active hactive hblank, eq_comm]

/-- What is stored for a ticket is put under its own identifier. -/
theorem id_of_encode (h : s.encode nonce t = .ok stored) : stored.id = s.place t := by
  cases hsealed : t.isSealed with
  | true =>
    rw [encode_of_isSealed s nonce hsealed] at h
    obtain rfl := Except.ok.inj h
    exact (place_of_isSealed s hsealed).symm
  | false =>
    rw [place_of_not_isSealed s hsealed]
    cases hactive : s.isActive with
    | false =>
      rw [encode_of_inactive hactive] at h
      obtain rfl := Except.ok.inj h
      exact (key_of_inactive hactive t.id).symm
    | true =>
      obtain ⟨c, hc⟩ := isActive_iff.1 hactive
      obtain ⟨-, payload, -, -, rfl⟩ := (encode_eq_ok_iff hc hsealed).1 h
      rfl

/-- While a deletion goes on, what is under a key stays there until it is counted. -/
theorem survivesDeletion_counted (s : Sealing) (key : String) :
    s.SurvivesDeletion fun n m => key ∈ m.entries.keys ∨ 0 < n where
  congr hentries hm := hentries ▸ hm
  delete other hm := MemoryStore.mem_keys_or_pos_delete other hm
  strike := by
    rintro n m m' p t body hm - - ⟨stored, rfl, -⟩
    refine MemoryStore.mem_keys_or_pos_delete _ (hm.imp_left fun hkey => ?_)
    exact (TextMap.mem_keys_insert ..).2 (.inr hkey)

end Sealing

namespace Registry

variable {r : Registry MemoryStore} {t : Ticket} {n : Nat} {w w₁ w₂ : World MemoryStore}

/-- Adding a ticket puts one entry. A ticket that is sealed already is put as it is. -/
theorem put_of_add (hr : r.InMemory) (h : r.add t w = .ok () w₁) :
    ∃ stored, w₁.store = w.store.put (r.sealing.place t) stored ∧
      (t.isSealed = true → stored = t) := by
  obtain ⟨⟨⟩, w', hupdate, hcount⟩ := Action.bind_eq_ok_iff.1 h
  obtain ⟨-, rfl⟩ := EStateM.Result.ok.inj hcount
  obtain ⟨nonce, tape, -, hencode⟩ := encode_run r t w
  cases hresult : r.sealing.encode nonce t with
  | error e =>
    rw [hresult] at hencode
    rw [update, Action.bind_of_error hencode] at hupdate
    cases hupdate
  | ok stored =>
    rw [hresult] at hencode
    rw [update, Action.bind_of_ok hencode, World.onStore, hr.put, Sealing.id_of_encode hresult]
      at hupdate
    obtain ⟨-, rfl⟩ := EStateM.Result.ok.inj hupdate
    refine ⟨stored, rfl, fun hsealed => ?_⟩
    rw [Sealing.encode_of_isSealed _ nonce hsealed] at hresult
    exact (Except.ok.inj hresult).symm

/-- A deletion that succeeds counts a ticket if there is an entry under the key of the deleted
ticket, and leaves none. -/
theorem pos_of_deleteResolved (hr : r.InMemory) (hs : r.sealing.Opens)
    (hkey : r.sealing.key t.id ∈ w.store.entries.keys) (h : r.deleteResolved t w = .ok n w₁) :
    1 ≤ n ∧ w₁.store.get? (r.sealing.key t.id) = none := by
  have hgone : w₁.store.get? (r.sealing.key t.id) = none :=
    (triple_deleteResolved_gone hr t).of_ok trivial h
  obtain ⟨j, rfl, hcounted⟩ := ((r.sealing.survivesDeletion_counted _).deleteResolved hr 0 hs t
    w).of_ok ⟨rfl, .inl hkey⟩ h
  rw [TextMap.mem_keys_iff_ne_none, Nat.zero_add] at hcounted
  have hj : 0 < j := hcounted.resolve_left fun hstays => hstays hgone
  exact ⟨Nat.le_add_right_of_le hj, hgone⟩

/-- Deleting a sealed ticket deletes what is under the key of its identifier, and nothing else. -/
theorem deleteResolved_sealed_run (hr : r.InMemory) (e : SealedTicket) (w : World MemoryStore) :
    ∃ metrics, r.deleteResolved (.sealed e) w =
      .ok (w.store.entries.contains (r.sealing.key e.id)).toNat
        ⟨w.store.delete (r.sealing.key e.id), w.tape, metrics⟩ := by
  refine ⟨w.metrics.add .deleted (w.store.entries.contains (r.sealing.key e.id)).toNat, ?_⟩
  have htree : r.deleteTree (.sealed e) w =
      .ok (w.store.entries.contains (r.sealing.key e.id)).toNat
        { w with store := w.store.delete (r.sealing.key e.id) } := by
    rw [deleteTree, Action.bind_of_ok (deleteOne_run hr e.id w)]
    rfl
  rw [deleteResolved, Action.bind_of_ok htree]
  rfl

/-- Any ticket is added to any store, and deleted at once. If its place is the storage key of its
identifier, it is counted, and its entry is gone. That is the case unless the ticket is sealed and
the cipher is active: then its identifier would have to be its own digest. Otherwise the entry
stays, which is the ticket itself, and only what is under the storage key of its identifier goes. -/
theorem deleteResolved_after_add (hr : r.InMemory) (hs : r.sealing.Opens)
    (hadd : r.add t w = .ok () w₁) (hdelete : r.deleteResolved t w₁ = .ok n w₂) :
    (r.sealing.place t = r.sealing.key t.id ↔
      (t.isSealed = true → r.sealing.isActive = true → Text.isBlank t.id = false →
        Sha512.hexDigest (Utf8.encode t.id) = t.id)) ∧
    ∃ stored, w₁.store = w.store.put (r.sealing.place t) stored ∧
      (r.sealing.place t = r.sealing.key t.id →
        1 ≤ n ∧ w₂.store.get? (r.sealing.place t) = none) ∧
      (r.sealing.place t ≠ r.sealing.key t.id →
        n = (w.store.entries.contains (r.sealing.key t.id)).toNat ∧
          w₂.store = w₁.store.delete (r.sealing.key t.id) ∧
          w₂.store.get? (r.sealing.place t) = some t) := by
  refine ⟨Sealing.place_eq_key_iff, ?_⟩
  obtain ⟨stored, hput, hsame⟩ := put_of_add hr hadd
  refine ⟨stored, hput, fun hplace => ?_, fun hplace => ?_⟩
  · rw [hplace] at hput ⊢
    refine pos_of_deleteResolved hr hs ?_ hdelete
    rw [hput]
    exact (TextMap.mem_keys_insert ..).2 (.inl rfl)
  · cases t with
    | session t => exact absurd rfl hplace
    | proxy t => exact absurd rfl hplace
    | service t => exact absurd rfl hplace
    | sealed e =>
      obtain ⟨metrics, hrun⟩ := deleteResolved_sealed_run hr e w₁
      obtain ⟨rfl, rfl⟩ := EStateM.Result.ok.inj (hdelete.symm.trans hrun)
      change r.sealing.place (.sealed e) ≠ r.sealing.key e.id at hplace
      refine ⟨?_, rfl, ?_⟩
      · change _ = (w.store.entries.contains (r.sealing.key e.id)).toNat
        rw [hput, TextMap.contains, MemoryStore.entries_put,
          TextMap.get?_insert_of_ne _ _ hplace.symm, TextMap.contains]
      · rw [MemoryStore.get?_delete, if_neg hplace, hput, MemoryStore.get?_put_self, hsame rfl]

/-- A session that lists itself as one of its service tickets is counted once, and is gone. -/
theorem deleteResolved_after_add_ownService :
    let now : Instant := ⟨⟨2024, 1, 1, by decide⟩, 0, 0, by decide, by decide⟩
    let login : Authentication := ⟨⟨"alice", .empty⟩, [], .empty, .empty, .empty, now⟩
    let root : Session := ⟨"TGT-1", now, .never, login, .ofList [("TGT-1", ⟨"app"⟩)], .empty⟩
    let r : Registry MemoryStore := ⟨.memory, .withCipher (.masking 90 true)⟩
    ∃ w₁ w₂, r.add (.session root) ⟨.empty, ⟨fun _ => 0, 0⟩, .empty⟩ = .ok () w₁ ∧
      r.deleteResolved (.session root) w₁ = .ok 1 w₂ ∧
      (∃ stored, w₁.store = MemoryStore.empty.put (r.sealing.key "TGT-1") stored) ∧
      w₂.store.get? (r.sealing.key "TGT-1") = none := by
  intro now login root r
  have hs : r.sealing.Opens := by
    intro c hc
    obtain rfl := Option.some.inj hc
    exact Cipher.roundTrips_masking 90 true
  have hadd := Action.eq_ok_of_outcome
    (show (r.add (.session root)).outcome ⟨.empty, ⟨fun _ => 0, 0⟩, .empty⟩ = .ok () by
      decide +kernel)
  have hdelete := Action.eq_ok_of_outcome
    (show (r.deleteResolved (.session root)).outcome
      ((r.add (.session root)).after ⟨.empty, ⟨fun _ => 0, 0⟩, .empty⟩) = .ok 1 by decide +kernel)
  obtain ⟨-, stored, hput, hagree, -⟩ :=
    deleteResolved_after_add (inMemory_memory _) hs hadd hdelete
  rw [Sealing.place_of_not_isSealed _ rfl] at hput hagree
  exact ⟨_, _, hadd, hdelete, ⟨stored, hput⟩, (hagree rfl).2⟩

/-- A service ticket that is sealed before it is added: deleting it counts nothing, and leaves its
entry where it was put. -/
theorem deleteResolved_misses :
    let now : Instant := ⟨⟨2024, 1, 1, by decide⟩, 0, 0, by decide, by decide⟩
    let t : Ticket := .service ⟨"ST-1", now, .never, "TGT-1", ⟨"app"⟩, false⟩
    let r : Registry MemoryStore := ⟨.memory, .withCipher (.masking 90 true)⟩
    let w : World MemoryStore := ⟨.empty, ⟨fun _ => 0, 0⟩, .empty⟩
    ∃ stored w₀ w₁ w₂, r.encode t w = .ok stored w₀ ∧ stored.isSealed = true ∧
      Text.isBlank stored.id = false ∧ r.add stored w₀ = .ok () w₁ ∧
      r.deleteResolved stored w₁ = .ok 0 w₂ ∧ w₂.store.get? stored.id = some stored ∧
      w₂.store = w₁.store := by
  intro now t r w
  let e : SealedTicket := ⟨r.sealing.key "ST-1", (Layout.ticket.write t).map (· ^^^ 90)⟩
  obtain ⟨nonce, tape, -, hencode⟩ := encode_run r t w
  have hsealed : r.sealing.encode nonce t = .ok (.sealed e) :=
    (Sealing.encode_eq_ok_iff rfl rfl).2 ⟨_, _, if_pos (by decide), rfl, rfl⟩
  rw [hsealed] at hencode
  have hblank : Text.isBlank e.id = false := by
    rw [Sealing.isBlank_key]
    decide
  have hadd : ∃ tape' metrics, r.add (.sealed e) { w with tape := tape } =
      .ok () ⟨MemoryStore.empty.put e.id (.sealed e), tape', metrics⟩ := ⟨_, _, rfl⟩
  obtain ⟨tape', metrics, hadd⟩ := hadd
  obtain ⟨metrics', hdelete⟩ := deleteResolved_sealed_run (r := r) (inMemory_memory _) e
    ⟨MemoryStore.empty.put e.id (.sealed e), tape', metrics⟩
  -- The identifier is a digest, and it is hashed once more.
  have hkey : r.sealing.key e.id ≠ e.id := by decide +kernel
  have habsent : (MemoryStore.empty.put e.id (.sealed e)).entries.contains
      (r.sealing.key e.id) = false :=
    TextMap.contains_eq_false_iff.2 (TextMap.get?_insert_of_ne _ _ hkey)
  rw [habsent] at hdelete
  have hsame : (MemoryStore.empty.put e.id (.sealed e)).delete (r.sealing.key e.id) =
      MemoryStore.empty.put e.id (.sealed e) := if_neg (by rw [habsent]; exact Bool.false_ne_true)
  rw [hsame] at hdelete
  exact ⟨_, _, _, _, hencode, rfl, hblank, hadd, hdelete, MemoryStore.get?_put_self _ _ _, rfl⟩

end Registry

end SignOn
