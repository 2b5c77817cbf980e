import SignOn.Proofs.Registry.Deletion
import SignOn.Proofs.Registry.Logout
import SignOn.Proofs.Registry.Mirror
import SignOn.Proofs.Registry.Resumption
import SignOn.Proofs.Registry.Robustness

/-!
# What is left after a failure

Encrypting, decrypting and scanning can fail. Every operation but a deletion writes only when
nothing can fail any more, so after a failure the store is as it was. A deletion may have removed
some of what it would have removed, and may have put the deleted session again with a shorter list;
but the ticket itself goes last, so after a failure it is still there, and a ticket of another
family was never touched.

The cipher with which a store was filled need not be the one with which it is read now: that one may
fail on anything, as long as it is never wrong.

## Main definitions

* `Cipher.Falters`, `Sealing.Falters` - does what another one does, or fails
* `Ticket.Shortens`, `Sealing.Retains` - what is kept for a ticket that is being deleted
* `Sealing.Fades` - a ticket is still stored, and some of what goes with it is gone

## Main results

* `Registry.store_of_run_error` - an operation that fails and is no deletion changes no ticket
* `Registry.fades_deleteSession` - a deletion of a session stops where the session fades
* `Registry.fades_of_delete_error` - so does every deletion
* `Registry.store_of_error` - what is left after any failure
-/

namespace SignOn

open SignOn.Action (Triple)

/-! ### Shorter lists -/

/-- The second ticket is the first one, perhaps with a shorter list of proxy-granting tickets. -/
def Ticket.Shortens (t t' : Ticket) : Prop :=
  ∃ left, t' = t.mapSession (·.withProxies left) ∧ ∀ body, t.session? = some body →
    ∀ child service, left.get? child = some service → body.proxies.get? child = some service

namespace Ticket

variable {t t' : Ticket}

theorem shortens_refl (t : Ticket) : t.Shortens t := by
  have hproxies : ∀ {t : Ticket} {body : Session}, t.session? = some body →
      t.mapSession (·.withProxies body.proxies) = t → t.Shortens t := by
    intro t body hbody hsame
    refine ⟨body.proxies, hsame.symm, fun own hown child service hget => ?_⟩
    obtain rfl := Option.some.inj (hbody.symm.trans hown)
    exact hget
  cases t with
  | session t => exact hproxies rfl rfl
  | proxy t => exact hproxies rfl rfl
  | service t => exact ⟨.empty, rfl, fun body hbody => by cases hbody⟩
  | sealed t => exact ⟨.empty, rfl, fun body hbody => by cases hbody⟩

theorem Shortens.id_eq (h : t.Shortens t') : t'.id = t.id := by
  obtain ⟨left, rfl, -⟩ := h
  exact id_mapSession _ t fun _ => rfl

theorem Shortens.removeProxy (h : t.Shortens t') (id : String) :
    t.Shortens (t'.mapSession (·.removeProxy id)) := by
  obtain ⟨left, rfl, hleft⟩ := h
  refine ⟨left.erase id, by cases t <;> rfl, fun body hbody child service hget => ?_⟩
  rw [TextMap.get?_erase] at hget
  split at hget
  · cases hget
  · exact hleft body hbody child service hget

theorem shortens_clearProxies (t : Ticket) : t.Shortens (t.mapSession Session.clearProxies) :=
  ⟨.empty, by cases t <;> rfl, fun body hbody child service hget => by cases hget⟩

theorem Shortens.mapDates (h : t.Shortens t') (f : Instant → Instant) :
    (t.mapDates f).Shortens (t'.mapDates f) := by
  obtain ⟨left, rfl, hleft⟩ := h
  refine ⟨left, by cases t <;> rfl, fun body hbody => ?_⟩
  rw [session?_mapDates] at hbody
  obtain ⟨own, hown, rfl⟩ := Option.map_eq_some_iff.1 hbody
  exact hleft own hown

end Ticket

/-! ### Ciphers that fail -/

/-- A cipher that decrypts to what another one decrypts to, or fails. What it encrypted it never
decrypts to anything else, though it may fail to. -/
structure Cipher.Falters (c c₀ : Cipher) : Prop where
  decrypt : ∀ {text plain}, c.decrypt text = .ok plain → c₀.decrypt text = .ok plain
  encrypt : ∀ {nonce plain text read}, nonce.length = c.nonceLength →
    c.encrypt nonce plain = .ok text → c.decrypt text = .ok read → read = plain

theorem Cipher.RoundTrips.falters_refusing {c : Cipher} (hc : c.RoundTrips)
    (encryption decryption : Option String) : (c.refusing encryption decryption).Falters c := by
  have hdecrypt : ∀ {text plain}, (c.refusing encryption decryption).decrypt text = .ok plain →
      c.decrypt text = .ok plain := by
    intro text plain h
    cases decryption with
    | none => exact h
    | some reason => cases h
  refine ⟨hdecrypt, fun {nonce plain text read} hnonce hencrypt hread => ?_⟩
  cases encryption with
  | some reason => cases hencrypt
  | none => exact Except.ok.inj ((hdecrypt hread).symm.trans (hc nonce plain text hnonce hencrypt))

namespace Sealing

variable {s s₀ : Sealing} {m m' m₀ : MemoryStore} {id child : String} {t stored : Ticket}
  {nonce : List UInt8}

/-- Without encryption nothing fails. With a cipher, it is the cipher that fails. -/
def Falters (s s₀ : Sealing) : Prop :=
  s.isActive = false ∧ s₀.isActive = false ∨
    ∃ c c₀, s.active? = some c ∧ s₀.active? = some c₀ ∧ c.Falters c₀

namespace Falters

theorem isActive_eq (h : s.Falters s₀) : s.isActive = s₀.isActive := by
  rcases h with ⟨hs, hs₀⟩ | ⟨c, c₀, hc, hc₀, -⟩
  · rw [hs, hs₀]
  · rw [isActive_of_active? hc, isActive_of_active? hc₀]

theorem key_eq (h : s.Falters s₀) : s.key = s₀.key := by
  funext id
  rw [key, key, h.isActive_eq]

theorem redate_eq (h : s.Falters s₀) : s.redate = s₀.redate := by
  funext i
  rw [redate, redate, h.isActive_eq]

/-- What is opened is opened to the same ticket. -/
theorem decode (h : s.Falters s₀) (ht : s.decode stored = .ok t) : s₀.decode stored = .ok t := by
  rcases h with ⟨hs, hs₀⟩ | ⟨c, c₀, hc, hc₀, hcc₀⟩
  · rw [decode_of_inactive hs] at ht
    rw [decode_of_inactive hs₀, ht]
  · cases stored with
    | sealed e =>
      rw [decode_sealed hc] at ht
      rw [decode_sealed hc₀]
      obtain ⟨bytes, hbytes, hread⟩ := opened_eq_ok_iff.1 ht
      exact opened_eq_ok_iff.2 ⟨bytes, hcc₀.decrypt hbytes, hread⟩
    | _ =>
      rw [decode_of_not_isSealed s rfl] at ht
      rw [decode_of_not_isSealed s₀ rfl, ht]

theorem resolve (h : s.Falters s₀) (ht : s.resolve m id = .ok (some t)) :
    s₀.resolve m id = .ok (some t) := by
  obtain ⟨hblank, stored, hget, hdecode⟩ := resolve_eq_some_iff.1 ht
  exact resolve_eq_some_iff.2 ⟨hblank, stored, h.key_eq ▸ hget, h.decode hdecode⟩

/-- What is put down has the key of the ticket, and is opened to nothing but the ticket with its
dates as they come back. -/
theorem encode (h : s.Falters s₀) (ht : t.isSealed = false)
    (hnonce : nonce.length = s.nonceLength t) (hstored : s.encode nonce t = .ok stored) :
    stored.id = s.key t.id ∧ ∀ t', s.decode stored = .ok t' → t' = t.mapDates s.redate := by
  rcases h with ⟨hs, -⟩ | ⟨c, c₀, hc, -, hcc₀⟩
  · rw [encode_of_inactive hs] at hstored
    obtain rfl := Except.ok.inj hstored
    refine ⟨(key_of_inactive hs t.id).symm, fun t' ht' => ?_⟩
    rw [decode_of_inactive hs] at ht'
    rw [Ticket.mapDates_of_fixed (redate_of_inactive hs), Except.ok.inj ht']
  · obtain ⟨bytes, payload, hbytes, hpayload, rfl⟩ := (encode_eq_ok_iff hc ht).1 hstored
    refine ⟨rfl, fun t' ht' => ?_⟩
    rw [nonceLength_eq hc ht] at hnonce
    rw [decode_sealed hc] at ht'
    rw [redate_of_active (isActive_of_active? hc)]
    obtain ⟨read, hdecrypt, -⟩ := opened_eq_ok_iff.1 ht'
    obtain rfl := hcc₀.encrypt hnonce hpayload hdecrypt
    exact Except.ok.inj (ht'.symm.trans (opened_eq_ok hdecrypt ht hbytes _))

end Falters

/-! ### A ticket that is being deleted -/

/-- What is kept for a ticket is the ticket, perhaps with its dates as they come back, and perhaps
with a shorter list of proxy-granting tickets. -/
def Retains (s : Sealing) (t t' : Ticket) : Prop :=
  t.Shortens t' ∨ (t.mapDates s.redate).Shortens t'

theorem Retains.id_eq {t' : Ticket} (h : s.Retains t t') : t'.id = t.id :=
  h.elim Ticket.Shortens.id_eq fun h => h.id_eq.trans (Ticket.id_mapDates _ t)

/-- Putting again what is kept, without an entry of its list. -/
theorem Retains.removeProxy {t' : Ticket} (h : s.Retains t t') (id : String) :
    s.Retains t ((t'.mapSession (·.removeProxy id)).mapDates s.redate) := by
  refine .inr ?_
  rcases h with h | h
  · exact (h.removeProxy id).mapDates s.redate
  · -- The dates come back the same a second time.
    have hagain := (h.removeProxy id).mapDates s.redate
    rwa [Ticket.mapDates_mapDates, funext (f := s.redate ∘ s.redate) s.redate_redate] at hagain

/-- A ticket is still stored, or what is kept for it. It may fail to be opened, but it is opened to
nothing else. Any other entry is as it was, or went with the ticket and is gone. -/
structure Fades (s s₀ : Sealing) (m₀ : MemoryStore) (t : Ticket) (m : MemoryStore) : Prop where
  kept : ∃ stored t', m.get? (s.key t.id) = some stored ∧ s.Retains t t' ∧
    ∀ u, s.decode stored = .ok u → u = t'
  others : ∀ {key}, key ≠ s.key t.id → m.get? key = m₀.get? key ∨
    m.get? key = Option.none ∧ key ∈ (s₀.cleared m₀ t).map s.key

variable {t' : Ticket} {body root : Session} {p : ProxyTicket} {keys : List String} {n : Nat}

theorem mem_cleared_self (s : Sealing) (m : MemoryStore) (t : Ticket) : t.id ∈ s.cleared m t := by
  cases t with
  | session root => exact List.mem_append_right _ List.mem_cons_self
  | proxy p => exact List.mem_append_right _ List.mem_cons_self
  | service t => exact List.mem_cons_self
  | sealed t => exact List.mem_cons_self

theorem fades_refl (h : s.Falters s₀) (ht : s₀.Stores m₀ t) : s.Fades s₀ m₀ t m₀ where
  kept := by
    obtain ⟨-, stored, hget, hdecode⟩ := resolve_eq_some_iff.1 ht
    refine ⟨stored, t, h.key_eq ▸ hget, .inl t.shortens_refl, fun u hu => ?_⟩
    exact Except.ok.inj ((h.decode hu).symm.trans hdecode)
  others _ := .inl rfl

namespace Fades

/-- Some of what goes with the ticket goes, and the ticket itself does not. -/
theorem removes (h : s.Fades s₀ m₀ t m) (hremoves : m.Removes keys n m')
    (hkeys : ∀ key ∈ keys, key ∈ (s₀.cleared m₀ t).map s.key) (hself : s.key t.id ∉ keys) :
    s.Fades s₀ m₀ t m' where
  kept := by
    obtain ⟨stored, t', hget, hretains, hstored⟩ := h.kept
    exact ⟨stored, t', (hremoves.get?_of_not_mem hself).trans hget, hretains, hstored⟩
  others {key} hne := by
    by_cases hmem : key ∈ keys
    · exact .inr ⟨by rw [hremoves.get?_eq, if_pos hmem], hkeys key hmem⟩
    · rw [hremoves.get?_of_not_mem hmem]
      exact h.others hne

/-- The ticket is put again. -/
theorem put (h : s.Fades s₀ m₀ t m) (hretains : s.Retains t t')
    (hstored : ∀ u, s.decode stored = .ok u → u = t') :
    s.Fades s₀ m₀ t (m.put (s.key t.id) stored) where
  kept := ⟨stored, t', MemoryStore.get?_put_self _ _ _, hretains, hstored⟩
  others hne := by
    rw [MemoryStore.get?_put_of_ne _ _ hne]
    exact h.others hne

/-- What the ticket is found to be. -/
theorem retains_of_resolve (h : s.Fades s₀ m₀ t m) (hfound : s.resolve m t.id = .ok (some t')) :
    s.Retains t t' := by
  obtain ⟨stored, u, hget, hretains, hstored⟩ := h.kept
  obtain ⟨-, kept, hkept, hdecode⟩ := resolve_eq_some_iff.1 hfound
  obtain rfl : kept = stored := Option.some.inj (hkept.symm.trans hget)
  rwa [hstored t' hdecode]

/-- What another identifier leads to was there before. -/
theorem resolve_of_ne (h : s.Fades s₀ m₀ t m) (hfalters : s.Falters s₀)
    (hne : s.key id ≠ s.key t.id) (hfound : s.resolve m id = .ok (some t')) :
    s₀.resolve m₀ id = .ok (some t') := by
  rcases h.others hne with hsame | ⟨hgone, -⟩
  · rw [resolve_congr hsame] at hfound
    exact hfalters.resolve hfound
  · rw [resolve_of_get?_eq_none hgone] at hfound
    cases hfound

/-- No key is new. -/
theorem keys_subset (h : s.Fades s₀ m₀ t m) (ht : ∃ stored, m₀.get? (s.key t.id) = some stored) :
    m.entries.keys ⊆ m₀.entries.keys := by
  intro key hkey
  by_cases hself : key = s.key t.id
  · exact TextMap.mem_keys_iff.2 (hself ▸ ht)
  · rw [TextMap.mem_keys_iff_ne_none] at hkey ⊢
    rcases h.others hself with hsame | ⟨hgone, -⟩
    · exact fun hnone => hkey (hsame.trans hnone)
    · exact absurd hgone hkey

/-- What does not go with the ticket is as it was. -/
theorem get?_of_not_mem (h : s.Fades s₀ m₀ t m) {key : String}
    (hkey : key ∉ (s₀.cleared m₀ t).map s.key) : m.get? key = m₀.get? key := by
  refine (h.others ?_).resolve_right fun hgone => hkey hgone.2
  rintro rfl
  exact hkey (List.mem_map_of_mem (mem_cleared_self s₀ m₀ t))

end Fades

/-- A look-up fails only where something is stored. -/
theorem exists_get?_of_resolve_eq_error {e : RegistryError} (h : s.resolve m id = .error e) :
    Text.isBlank id = false ∧ ∃ stored, m.get? (s.key id) = some stored := by
  cases hblank : Text.isBlank id with
  | true =>
    rw [resolve_of_isBlank hblank] at h
    cases h
  | false =>
    cases hget : m.get? (s.key id) with
    | none =>
      rw [resolve_of_get?_eq_none hget] at h
      cases h
    | some stored => exact ⟨rfl, stored, rfl⟩

/-- The key of a stored session is none of those that a ticket lists: what stands there would be of
another kind. This needs no digests without collisions. -/
theorem WellLinked.key_ne_of_listed (hm : s.WellLinked m) (hroot : s.Stores m (.session root))
    (ht : s.Stores m t) (hbody : t.session? = some body)
    (hchild : child ∈ body.services.keys ∨ child ∈ body.proxies.keys) :
    s.key child ≠ s.key root.id := by
  intro hkey
  have hfound : s.resolve m child = .ok (some (.session root)) :=
    (resolve_of_key_eq hkey).trans hroot
  rcases hchild with hchild | hchild
  · rcases hm.services ht hbody child hchild with h | ⟨st, h, -⟩ <;> rw [hfound] at h <;> cases h
  · rcases hm.proxies ht hbody child hchild with h | ⟨p, h, -⟩ <;> rw [hfound] at h <;> cases h

end Sealing

namespace Registry

variable {r : Registry MemoryStore} {s₀ : Sealing} {m m₀ : MemoryStore} {root : Session}
  {p : ProxyTicket} {t t' : Ticket} {body : Session} {id : String} {w w' : World MemoryStore}
  {e : RegistryError}

/-! ### Operations that are no deletions -/

/-- An update puts what is encoded for the ticket, or changes nothing. -/
theorem triple_update_encoded (hr : r.InMemory) (t : Ticket) (m : MemoryStore) :
    (r.update t).Triple (fun w => w.store = m)
      (fun _ w => ∃ nonce stored, nonce.length = r.sealing.nonceLength t ∧
        r.sealing.encode nonce t = .ok stored ∧ w.store = m.put stored.id stored)
      (fun w => w.store = m) := by
  rintro w rfl
  obtain ⟨nonce, tape, hnonce, hencode⟩ := encode_run r t w
  cases hresult : r.sealing.encode nonce t with
  | error e =>
    rw [hresult] at hencode
    rw [update, Action.bind_of_error hencode]
  | ok stored =>
    rw [hresult] at hencode
    rw [update, Action.bind_of_ok hencode, World.onStore, hr.put]
    exact ⟨nonce, stored, hnonce, hresult, rfl⟩

/-- Deleting what is under some keys does not fail. -/
theorem triple_deleteKeys_succeeds (hr : r.InMemory) (keys : List String)
    (P E : World MemoryStore → Prop) : (r.deleteKeys keys).Triple P (fun _ _ => True) E := by
  intro w _
  obtain ⟨n, m, hrun, -⟩ := deleteKeys_run hr keys w
  rw [hrun]
  trivial

/-- Listing everything changes nothing, also where it fails. -/
theorem after_all (hquiet : r.ScansQuietly) (w : World MemoryStore) : r.all.after w = w := by
  have hscan := hquiet w.store
  unfold Action.after at hscan ⊢
  cases hresult : r.backend.scan w.store with
  | ok stored m =>
    rw [hresult] at hscan
    obtain rfl : m = w.store := hscan
    have hfirst : World.onStore r.backend.scan w = .ok stored w := by rw [World.onStore, hresult]
    rw [all, Action.bind_of_ok hfirst]
    cases r.sealing.decodeAll stored <;> rfl
  | error e m =>
    rw [hresult] at hscan
    obtain rfl : m = w.store := hscan
    have hfirst : World.onStore r.backend.scan w = .error e w := by rw [World.onStore, hresult]
    rw [all, Action.bind_of_error hfirst]

/-- A count does not fail, and changes nothing. -/
theorem countOf_run (hquiet : r.ScansQuietly) (kind : TicketKind) (w : World MemoryStore) :
    ∃ n, r.countOf kind w = .ok n w := by
  have hafter := after_all hquiet w
  unfold countOf
  unfold Action.after at hafter
  cases hall : r.all w with
  | ok ts w' =>
    rw [hall] at hafter
    exact ⟨_, by rw [← hafter]⟩
  | error e w' =>
    rw [hall] at hafter
    exact ⟨_, by rw [← hafter]⟩

/-- An operation that fails and is no deletion leaves the store as it was. -/
theorem store_of_run_error (hr : r.InMemory) (hquiet : r.ScansQuietly) {op : Operation}
    (hdelete : ∀ id, op ≠ .delete id) (hresolved : ∀ t, op ≠ .deleteResolved t)
    (hfails : op.run r w = .error e w') : w'.store = w.store := by
  let same (v : World MemoryStore) : Prop := v.store = w.store
  have hmap : ∀ {α : Type} {f : Action (World MemoryStore) α} {Q : α → World MemoryStore → Prop}
      (k : α → Answer), f.Triple same Q same → (k <$> f).Triple same (fun _ _ => True) same :=
    fun k h => h.bind fun _ => .pure fun _ _ => trivial
  have hupdate : ∀ t, (r.update t).Triple same (fun _ _ => True) same := fun t =>
    (triple_update_encoded hr t w.store).mono (fun _ h => h) (fun _ _ _ => trivial) fun _ h => h
  have hfind : ∀ id, (r.find id).Triple same (fun _ _ => True) same := fun id =>
    (triple_find_keeps hr id).mono (fun _ h => h) (fun _ _ _ => trivial) fun _ h => h
  have hrun : (op.run r).Triple same (fun _ _ => True) same := by
    cases op with
    | add t => exact hmap _ ((hupdate t).bind fun _ => triple_count _ 1 (Q := fun _ => True))
    | update t => exact hmap _ (hupdate t)
    | find id => exact hmap _ (hfind id)
    | findAs id kind => exact hmap _ (triple_findAs hr id kind)
    | findService id => exact hmap _ ((triple_findAs hr id .service).map _)
    | findProxy id => exact hmap _ ((triple_findAs hr id .proxy).map _)
    | isOrphaned t =>
      exact hmap _ ((hfind t.parent).bind fun _ => .pure (Q := fun _ _ => True) fun _ _ => trivial)
    | delete id => exact absurd rfl (hdelete id)
    | deleteResolved t => exact absurd rfl (hresolved t)
    | deleteOne id =>
      refine hmap _ (Q := fun _ _ => True) fun v _ => ?_
      rw [deleteOne_run hr]
      trivial
    | deleteAll =>
      exact hmap _ ((triple_scan hquiet (Q := (· = w.store))).bind fun stored =>
        triple_deleteKeys_succeeds hr _ _ _)
    | all => exact hmap _ (triple_all hquiet (Q := (· = w.store)))
    | sessionCount => exact hmap _ (triple_countOf hquiet .session (Q := (· = w.store)))
    | serviceCount => exact hmap _ (triple_countOf hquiet .service (Q := (· = w.store)))
  exact hrun.of_error rfl hfails

/-! ### Deletions that fail -/

/-- A ticket is put again, or stays as it was put before. -/
theorem fades_update (hr : r.InMemory) (hfalters : r.sealing.Falters s₀)
    (hretains : r.sealing.Retains t (t'.mapDates r.sealing.redate)) (ht : t'.isSealed = false) :
    (r.update t').Triple (fun w => r.sealing.Fades s₀ m₀ t w.store)
      (fun _ w => r.sealing.Fades s₀ m₀ t w.store) fun w => r.sealing.Fades s₀ m₀ t w.store := by
  intro w hw
  refine (triple_update_encoded hr t' w.store).mono (fun _ h => h) ?_ ?_ w rfl
  · rintro _ v ⟨nonce, stored, hnonce, hencode, hstore⟩
    obtain ⟨hid, hstored⟩ := hfalters.encode ht hnonce hencode
    rw [hstore, hid, ← Ticket.id_mapDates r.sealing.redate t', hretains.id_eq]
    exact hw.put hretains hstored
  · intro v hstore
    rwa [hstore]

/-- Service tickets go with the ticket that is deleted. -/
theorem fades_deleteServices (hr : r.InMemory) {body : Session}
    (hservices : ∀ child ∈ body.services.keys, child ∈ s₀.cleared m₀ t)
    (hself : r.sealing.key t.id ∉ body.services.keys.map r.sealing.key)
    (E : World MemoryStore → Prop) :
    (r.deleteServices body).Triple (fun w => r.sealing.Fades s₀ m₀ t w.store)
      (fun _ w => r.sealing.Fades s₀ m₀ t w.store) E := by
  intro w hw
  obtain ⟨n, m, hrun, hremoves⟩ := deleteEach_run hr body.services.keys w
  rw [deleteServices, hrun]
  refine hw.removes hremoves (fun key hkey => ?_) hself
  obtain ⟨child, hchild, rfl⟩ := List.mem_map.1 hkey
  exact List.mem_map_of_mem (hservices child hchild)

/-- A ticket goes with the ticket that is deleted. -/
theorem fades_deleteOne (hr : r.InMemory)
    (hid : r.sealing.key id ∈ (s₀.cleared m₀ t).map r.sealing.key)
    (hself : r.sealing.key t.id ≠ r.sealing.key id) (E : World MemoryStore → Prop) :
    (r.deleteOne id).Triple (fun w => r.sealing.Fades s₀ m₀ t w.store)
      (fun _ w => r.sealing.Fades s₀ m₀ t w.store) E := by
  refine (triple_deleteOne hr id (fun _ m => r.sealing.Fades s₀ m₀ t m) E).mono ?_
    (fun _ _ hw => hw) fun _ hw => hw
  intro w hw
  refine hw.removes (MemoryStore.removes_delete _ _) (fun key hkey => ?_) ?_
  · rwa [List.mem_singleton.1 hkey]
  · rwa [List.mem_singleton]

section Session

variable (hr : r.InMemory) (hfalters : r.sealing.Falters s₀) (hm : s₀.WellLinked m₀)
  (hroot : s₀.Stores m₀ (.session root))

include hr hfalters

/-- The session is found again, and put without the ticket. -/
theorem fades_detach (hparent : p.parent = root.id) :
    (r.detach p).Triple (fun w => r.sealing.Fades s₀ m₀ (.session root) w.store)
      (fun _ w => r.sealing.Fades s₀ m₀ (.session root) w.store)
      fun w => r.sealing.Fades s₀ m₀ (.session root) w.store := by
  refine (triple_find_keeps hr p.parent).bind fun found => ?_
  rw [hparent]
  cases found with
  | none => exact .pure fun _ hw => hw.1
  | some t =>
    rintro w ⟨hw, hfound⟩
    have hretains := hw.retains_of_resolve hfound
    -- What is found is a session in either case.
    obtain ⟨body, rfl⟩ : ∃ body, t = .session body := by
      rcases hretains with ⟨left, rfl, -⟩ | ⟨left, rfl, -⟩ <;> exact ⟨_, rfl⟩
    exact fades_update hr hfalters (hretains.removeProxy p.id) rfl w hw

include hm hroot

/-- What the session lists leads to its own tickets, as it did before. -/
theorem fades_deleteLinked (hid : id ∈ root.proxies.keys) :
    (r.deleteLinked id).Triple (fun w => r.sealing.Fades s₀ m₀ (.session root) w.store)
      (fun _ w => r.sealing.Fades s₀ m₀ (.session root) w.store)
      fun w => r.sealing.Fades s₀ m₀ (.session root) w.store := by
  have hkeys : ∀ {t body}, s₀.Stores m₀ t → t.session? = some body → ∀ child,
      child ∈ body.services.keys ∨ child ∈ body.proxies.keys →
        r.sealing.key child ≠ r.sealing.key root.id := by
    intro t body ht hbody child hchild
    rw [hfalters.key_eq]
    exact hm.key_ne_of_listed hroot ht hbody hchild
  refine (triple_find_keeps hr id).bind fun found => ?_
  cases found with
  | none => exact .pure fun _ hw => hw.1
  | some t =>
    rintro w ⟨hw, hfound⟩
    have hbefore := hw.resolve_of_ne hfalters (hkeys hroot rfl id (.inr hid)) hfound
    obtain ⟨p, hp, hparent⟩ := (hm.proxies hroot rfl id hid).resolve_left fun hnone => by
      rw [hbefore] at hnone
      cases hnone
    obtain rfl : t = .proxy p := by
      rw [hbefore] at hp
      cases hp
      rfl
    obtain ⟨hstores, hpkey⟩ := hm.stores_of_resolve hp
    rw [← hfalters.key_eq] at hpkey
    have hfamily : ∀ child, child ∈ p.body.services.keys ∨ child = id →
        child ∈ s₀.cleared m₀ (.session root) := fun child hchild =>
      Sealing.mem_family_of_mem_familyVia hid (Sealing.mem_familyVia_iff.2 ⟨p, hp, hchild⟩)
    have hservices : r.sealing.key root.id ∉ p.body.services.keys.map r.sealing.key := by
      intro hmem
      obtain ⟨child, hchild, hkey⟩ := List.mem_map.1 hmem
      exact hkeys hstores rfl child (.inl hchild) hkey
    have hself : r.sealing.key p.id ∈ (s₀.cleared m₀ (.session root)).map r.sealing.key :=
      List.mem_map.2 ⟨id, hfamily id (.inr rfl), hpkey⟩
    have hne : r.sealing.key root.id ≠ r.sealing.key p.id := by
      rw [← show r.sealing.key id = r.sealing.key p.id from hpkey]
      exact (hkeys hroot rfl id (.inr hid)).symm
    refine ((fades_deleteServices hr (fun child hchild => hfamily child (.inl hchild)) hservices
      _).bind fun _ => (fades_detach hr hfalters hparent).bind fun _ =>
        (fades_deleteOne hr hself hne _).bind fun _ => .pure fun _ hw => hw) w hw

theorem fades_deleteEachLinked {ids : List String} (hids : ∀ id ∈ ids, id ∈ root.proxies.keys) :
    (r.deleteEachLinked ids).Triple (fun w => r.sealing.Fades s₀ m₀ (.session root) w.store)
      (fun _ w => r.sealing.Fades s₀ m₀ (.session root) w.store)
      fun w => r.sealing.Fades s₀ m₀ (.session root) w.store := by
  induction ids with
  | nil => exact .pure fun _ hw => hw
  | cons id rest ih =>
    obtain ⟨hid, hrest⟩ := List.forall_mem_cons.1 hids
    exact (fades_deleteLinked hr hfalters hm hroot hid).bind fun _ =>
      (ih hrest).bind fun _ => .pure fun _ hw => hw

/-- After the last update nothing fails any more. -/
theorem fades_deleteProxies :
    (r.deleteProxies root).Triple (fun w => r.sealing.Fades s₀ m₀ (.session root) w.store)
      (fun _ _ => True) fun w => r.sealing.Fades s₀ m₀ (.session root) w.store := by
  cases hempty : root.proxies.isEmpty with
  | true =>
    rw [deleteProxies, if_pos hempty]
    exact .pure fun _ _ => trivial
  | false =>
    rw [deleteProxies, if_neg (by rw [hempty]; exact Bool.false_ne_true)]
    refine (fades_deleteEachLinked hr hfalters hm hroot fun _ hid => hid).bind fun _ => ?_
    have hretains := (Ticket.session root).shortens_clearProxies.mapDates r.sealing.redate
    exact (fades_update hr hfalters (.inr hretains) rfl).bind fun _ => .pure fun _ _ => trivial

/-- A deletion of a session stops where the session is still stored. -/
theorem fades_deleteSession :
    (r.deleteSession root).Triple (fun w => r.sealing.Fades s₀ m₀ (.session root) w.store)
      (fun _ _ => True) fun w => r.sealing.Fades s₀ m₀ (.session root) w.store := by
  have hself : r.sealing.key root.id ∉ root.services.keys.map r.sealing.key := by
    rw [hfalters.key_eq]
    exact hm.key_not_mem_services hroot rfl hroot rfl
  have hservices : ∀ child ∈ root.services.keys, child ∈ s₀.cleared m₀ (.session root) :=
    fun child hchild => List.mem_append_left _ (List.mem_append_left _ hchild)
  refine (fades_deleteServices hr hservices hself _).bind fun _ =>
    (fades_deleteProxies hr hfalters hm hroot).bind fun _ => ?_
  exact (triple_deleteOne hr root.id (fun _ _ => True) _).bind fun _ => .pure fun _ _ => trivial

end Session

/-- Where striking a ticket off fails, nothing was changed. -/
theorem triple_detach_unchanged (hr : r.InMemory) (p : ProxyTicket) (P : World MemoryStore → Prop)
    (hP : ∀ {w w'}, P w → w'.store = w.store → P w') :
    (r.detach p).Triple P (fun _ _ => True) P := by
  have hupdate : ∀ t, (r.update t).Triple P (fun _ _ => True) P := fun t w hw =>
    (triple_update_encoded hr t w.store).mono (fun _ h => h) (fun _ _ _ => trivial)
      (fun _ hstore => hP hw hstore) w rfl
  refine (triple_find_keeps hr p.parent).bind fun found => Triple.mono (P := P) ?_
    (fun _ hw => hw.1) (fun _ _ hw => hw) fun _ hw => hw
  cases found with
  | none => exact .pure fun _ _ => trivial
  | some t =>
    cases t with
    | session t => exact hupdate _
    | proxy t => exact hupdate _
    | service t => exact .pure fun _ _ => trivial
    | sealed t => exact .pure fun _ _ => trivial

/-- A deletion of a proxy-granting ticket stops where its parent was not put again yet. -/
theorem fades_deleteProxy (hr : r.InMemory) (hfalters : r.sealing.Falters s₀)
    (hm : s₀.WellLinked m₀) (hp : s₀.Stores m₀ (.proxy p)) :
    (r.deleteProxy p).Triple (fun w => r.sealing.Fades s₀ m₀ (.proxy p) w.store)
      (fun _ _ => True) fun w => r.sealing.Fades s₀ m₀ (.proxy p) w.store := by
  have hself : r.sealing.key p.id ∉ p.body.services.keys.map r.sealing.key := by
    rw [hfalters.key_eq]
    exact hm.key_not_mem_services hp rfl hp rfl
  have hservices : ∀ child ∈ p.body.services.keys, child ∈ s₀.cleared m₀ (.proxy p) :=
    fun child hchild => List.mem_append_left _ hchild
  refine (fades_deleteServices hr hservices hself _).bind fun _ =>
    (triple_detach_unchanged hr p _ fun hw hstore => hstore ▸ hw).bind fun _ => ?_
  exact (triple_deleteOne hr p.id (fun _ _ => True) _).bind fun _ => .pure fun _ _ => trivial

/-- A deletion that fails leaves the ticket stored that it was about. -/
theorem fades_of_delete_error (hr : r.InMemory) (hfalters : r.sealing.Falters s₀)
    (hm : s₀.WellLinked w.store) (hfails : r.delete id w = .error e w') :
    ∃ t, s₀.resolve w.store id = .ok (some t) ∧ r.sealing.Fades s₀ w.store t w'.store := by
  cases hresolve : r.sealing.resolve w.store id with
  | error e' =>
    -- The ticket is there, but it is not opened any more, so nothing was done.
    obtain ⟨hblank, stored, hget⟩ := Sealing.exists_get?_of_resolve_eq_error hresolve
    have hfind : r.find id w = .error e' w := by rw [find_run hr, hresolve]
    rw [delete, Action.bind_of_error hfind] at hfails
    obtain ⟨-, rfl⟩ := EStateM.Result.error.inj hfails
    rw [hfalters.key_eq] at hget
    obtain ⟨t, ht, -⟩ := hm.entry hget
    exact ⟨t, Sealing.resolve_eq_some_iff.2 ⟨hblank, stored, hget, ht⟩,
      Sealing.fades_refl hfalters (hm.stores_of_get? hget ht).1⟩
  | ok found =>
    cases found with
    | none =>
      rw [delete_of_find_none (find_of_resolve hr hresolve)] at hfails
      cases hfails
    | some t =>
      have hfound := hfalters.resolve hresolve
      obtain ⟨ht, -⟩ := hm.stores_of_resolve hfound
      refine ⟨t, hfound, ?_⟩
      have htree := deleteTree_of_delete_error hr hresolve hfails
      have hstart := Sealing.fades_refl hfalters ht
      cases t with
      | session root =>
        exact (fades_deleteSession hr hfalters hm ht).of_error hstart htree
      | proxy p => exact (fades_deleteProxy hr hfalters hm ht).of_error hstart htree
      | service st =>
        rw [deleteTree, Action.bind_of_ok (deleteOne_run hr st.id w)] at htree
        cases htree
      | sealed e =>
        rw [deleteTree, Action.bind_of_ok (deleteOne_run hr e.id w)] at htree
        cases htree

/-- Where something fails, the store stays as it was, but for what a deletion may have begun. Let a
registry have any cipher, which may fail on anything. An operation that fails and is no deletion
changes neither a ticket nor the number of writes, and a count never fails.

About deletions, let the cipher be one that may fail but is never wrong, and let the store be well
linked as it was written, whatever can still be opened of it. A deletion that fails was about a
stored ticket, and this is still stored, at most with a shorter list of proxy-granting tickets, and
if it was not sealed, with its dates as they are read back; no key is new; and every entry is as it
was that is not the ticket or one of those that a deletion of it removes. -/
theorem store_of_error (hr : r.InMemory) (hquiet : r.ScansQuietly) :
    (∀ {op : Operation} {w w' e}, (∀ id, op ≠ .delete id) → (∀ t, op ≠ .deleteResolved t) →
      op.run r w = .error e w' → w'.store = w.store) ∧
    (∀ w, (∃ n, r.sessionCount w = .ok n w) ∧ ∃ n, r.serviceCount w = .ok n w) ∧
    ∀ {s₀ : Sealing} {w w' id e}, r.sealing.Falters s₀ → s₀.WellLinked w.store →
      r.delete id w = .error e w' →
      ∃ t stored kept t', s₀.resolve w.store id = .ok (some t) ∧
        w'.store.get? (r.sealing.key id) = some stored ∧
        s₀.Redated w.store t kept ∧ kept.Shortens t' ∧
        (∀ u, r.sealing.decode stored = .ok u → u = t') ∧
        w'.store.entries.keys ⊆ w.store.entries.keys ∧
        ∀ key, key ∉ (s₀.cleared w.store t).map r.sealing.key →
          w'.store.get? key = w.store.get? key := by
  refine ⟨fun hdelete hresolved hfails => store_of_run_error hr hquiet hdelete hresolved hfails,
    fun w => ⟨countOf_run hquiet .session w, countOf_run hquiet .service w⟩, ?_⟩
  intro s₀ w w' id e hfalters hm hfails
  obtain ⟨t, hfound, hfades⟩ := fades_of_delete_error hr hfalters hm hfails
  obtain ⟨stored, t', hget, hretains, hstored⟩ := hfades.kept
  obtain ⟨ht, hkey⟩ := hm.stores_of_resolve hfound
  rw [← hfalters.key_eq] at hkey
  obtain ⟨-, before, hbefore, -⟩ := Sealing.resolve_eq_some_iff.1 hfound
  rw [← hfalters.key_eq, hkey] at hbefore
  have hkeys := hfades.keys_subset ⟨before, hbefore⟩
  rw [hkey]
  rcases hretains with hshort | hshort
  · exact ⟨t, stored, t, t', hfound, hget, .inl rfl, hshort, hstored, hkeys,
      fun key hnot => hfades.get?_of_not_mem hnot⟩
  · rw [hfalters.redate_eq] at hshort
    exact ⟨t, stored, _, t', hfound, hget, ht.redated, hshort, hstored, hkeys,
      fun key hnot => hfades.get?_of_not_mem hnot⟩

/-- The cipher opens everything and encrypts nothing any more, and the backend cannot scan. Listing
everything fails and changes nothing. A session that lists a proxy-granting ticket is not deleted:
it is still stored, and opened to itself but for what it lists. -/
theorem store_of_error_refused :
    let now : Instant := ⟨⟨2024, 1, 1, by decide⟩, 0, 0, by decide, by decide⟩
    let login : Authentication := ⟨⟨"alice", .empty⟩, [], .empty, .empty, .empty, now⟩
    let root : Session := ⟨"TGT-1", now, .never, login, .ofList [("ST-1", ⟨"app"⟩)],
      .ofList [("PGT-1", ⟨"p"⟩)]⟩
    let tickets : List Ticket := [.session root,
      .service ⟨"ST-1", now, .never, "TGT-1", ⟨"app"⟩, false⟩,
      .proxy ⟨.fresh "PGT-1" login now .never, "TGT-1", ⟨"p"⟩⟩]
    let tape : Tape := ⟨fun _ => 0, 0⟩
    let c : Cipher := .masking 90 true
    let refusing : Registry MemoryStore :=
      ⟨Backend.memory.scanless, .withCipher (c.refusing (some "no key") none)⟩
    let w := runAll ⟨.memory, .withCipher c⟩ (tickets.map .add) ⟨.empty, tape, .empty⟩
    (∃ e w', Operation.all.run refusing w = .error e w' ∧ w'.store = w.store) ∧
      (∃ n, refusing.sessionCount w = .ok n w) ∧
      ∃ e w' stored, delete refusing "TGT-1" w = .error e w' ∧
        w'.store.get? (refusing.sealing.key "TGT-1") = some stored ∧
        (∀ u, refusing.sealing.decode stored = .ok u → (Ticket.session root).Shortens u) ∧
        w'.store.entries.keys ⊆ w.store.entries.keys := by
  intro now login root tickets tape c refusing w
  let ids (id : String) : Prop := id ∈ ["TGT-1", "ST-1", "PGT-1"]
  have hactive : (Sealing.withCipher c).active? = some c := rfl
  have hround : c.RoundTrips := Cipher.roundTrips_masking 90 true
  have hfree : Sha512.CollisionFree ids := Sha512.collisionFree_of_nodup (by decide +kernel)
  -- The sealed store mirrors one without encryption, of which everything is computed.
  obtain ⟨hmirrors, -⟩ := mirrors_runAll_add (Sealing.reliable_masking 90 true)
    (Sealing.separates_of_collisionFree fun _ => hfree)
    (show ∀ t ∈ tickets, _ by decide) tape tape .empty
  have hm : (Sealing.withCipher c).WellLinked w.store :=
    hmirrors.wellLinked (Sealing.wellLinked_of_isWellLinked rfl (by decide))
  have hroot : (Sealing.withCipher c).Stores w.store (.session root) :=
    hmirrors.stores_mapDates (t := .session root)
      ((Sealing.stores_iff_of_inactive rfl).2 (by decide))
  have hfalters : refusing.sealing.Falters (.withCipher c) :=
    .inr ⟨_, c, rfl, rfl, hround.falters_refusing _ _⟩
  have hrefuses : ∀ nonce stored,
      refusing.sealing.encode nonce (.session root.clearProxies) ≠ .ok stored := by
    intro nonce stored hencode
    obtain ⟨bytes, payload, -, hpayload, -⟩ := (Sealing.encode_eq_ok_iff rfl rfl).1 hencode
    cases hpayload
  have hreads : (Sealing.withCipher c).ReadsAs refusing.sealing :=
    Sealing.readsAs_of_decrypt hactive rfl rfl
  obtain ⟨e, w', hfails⟩ := exists_delete_error (inMemory_scanless refusing.sealing)
    (hreads.stores_iff.1 hroot) rfl hrefuses
  obtain ⟨hsame, hcounts, hdelete⟩ := store_of_error (inMemory_scanless refusing.sealing)
    (scansQuietly_scanless refusing.sealing)
  have hall : ∀ v, Operation.all.run refusing v = .error (.unsupported "scan") v := fun _ => rfl
  refine ⟨⟨_, w, hall w, hsame (fun _ => by simp) (fun _ => by simp) (hall w)⟩, (hcounts w).1, ?_⟩
  obtain ⟨t, stored, kept, t', hfound, hget, hredated, hshort, hstored, hkeys, -⟩ :=
    hdelete hfalters hm hfails
  obtain rfl : Ticket.session root = t := by
    have hsame := hroot.symm.trans hfound
    cases hsame
    rfl
  obtain rfl := hredated.eq_of_onMinute (by decide)
  refine ⟨e, w', stored, hfails, hget, fun u hu => ?_, hkeys⟩
  rw [hstored u hu]
  exact hshort

end Registry

end SignOn
