import SignOn.Proofs.Registry.Links

/-!
# The family of a session

With a session go its service tickets, and its proxy-granting tickets with their own service
tickets. In a well-linked store these are all different tickets: each of them names the one ticket
that lists it as its parent.

## Main definitions

* `Sealing.familyVia` - the identifiers that go with a proxy-granting ticket
* `Sealing.family` - the identifiers that go with a session

## Main results

* `Sealing.WellLinked.nodup_keys_family` - no two stored tickets of a family stand under the same
  key
* `Sealing.length_family` - how many tickets a family has
-/

namespace SignOn.Sealing

/-- What goes with the proxy-granting ticket that an identifier leads to: its service tickets, and
the ticket itself. -/
def familyVia (s : Sealing) (m : MemoryStore) (id : String) : List String :=
  match s.resolve m id with
  | .ok (some (.proxy p)) => p.body.services.keys ++ [id]
  | _ => []

/-- What goes with a session: its service tickets, its proxy-granting tickets with their service
tickets, and the session itself. -/
def family (s : Sealing) (m : MemoryStore) (root : Session) : List String :=
  root.services.keys ++ root.proxies.keys.flatMap (s.familyVia m) ++ [root.id]

variable {s : Sealing} {m : MemoryStore} {id : String} {p : ProxyTicket}

theorem familyVia_of_proxy (h : s.resolve m id = .ok (some (.proxy p))) :
    s.familyVia m id = p.body.services.keys ++ [id] := by
  rw [familyVia, h]

theorem familyVia_of_missing (h : s.resolve m id = .ok Option.none) : s.familyVia m id = [] := by
  rw [familyVia, h]

theorem mem_familyVia_iff {child : String} :
    child ∈ s.familyVia m id ↔ ∃ p, s.resolve m id = .ok (some (.proxy p)) ∧
      (child ∈ p.body.services.keys ∨ child = id) := by
  constructor
  · intro h
    unfold familyVia at h
    split at h
    next p hp => exact ⟨p, hp, by simpa using h⟩
    next => cases h
  · rintro ⟨p, hp, h⟩
    rw [familyVia_of_proxy hp]
    simpa using h

variable {root : Session} {id' : String}

/-- The key of a stored session is none of those that go with its proxy-granting tickets. -/
theorem WellLinked.key_not_mem_familyVia (hm : s.WellLinked m) (hsep : s.Separates (s.InPlay m))
    (hroot : s.Stores m (.session root)) (hid : id ∈ root.proxies.keys) :
    s.key root.id ∉ (s.familyVia m id).map s.key := by
  intro hmem
  obtain ⟨child, hchild, hkey⟩ := List.mem_map.1 hmem
  obtain ⟨p, hp, hservice | rfl⟩ := mem_familyVia_iff.1 hchild
  · have hstored : s.Stores m (.proxy p) := (hm.stores_of_resolve hp).1
    exact hm.key_ne_of_session hsep hroot hstored rfl (.inl hservice) hkey
  · exact hm.key_ne_of_session hsep hroot hroot rfl (.inr hid) hkey

/-- What goes with one proxy-granting ticket is no other one. -/
theorem WellLinked.resolve_of_mem_familyVia (hm : s.WellLinked m)
    (hsep : s.Separates (s.InPlay m)) (hroot : s.Stores m (.session root))
    (hid : id ∈ root.proxies.keys) (hid' : id' ∈ root.proxies.keys) (hne : id' ≠ id)
    (hmem : s.key id' ∈ (s.familyVia m id).map s.key) : s.resolve m id' = .ok Option.none := by
  obtain ⟨child, hchild, hkey⟩ := List.mem_map.1 hmem
  obtain ⟨p, hp, hservice | rfl⟩ := mem_familyVia_iff.1 hchild
  · have hstored : s.Stores m (.proxy p) := (hm.stores_of_resolve hp).1
    exact hm.resolve_eq_none_of_key_eq hstored rfl hroot rfl hsep hservice hid' hkey
  · refine absurd (hsep _ _ ?_ ?_ hkey).symm hne
    · exact hroot.inPlay_proxy rfl hid
    · exact hroot.inPlay_proxy rfl hid'

/-- A service ticket of a session is none of its proxy-granting tickets. -/
theorem WellLinked.resolve_of_mem_services (hm : s.WellLinked m)
    (hsep : s.Separates (s.InPlay m)) (hroot : s.Stores m (.session root))
    (hid : id ∈ root.proxies.keys) (hmem : s.key id ∈ root.services.keys.map s.key) :
    s.resolve m id = .ok Option.none := by
  obtain ⟨child, hchild, hkey⟩ := List.mem_map.1 hmem
  exact hm.resolve_eq_none_of_key_eq hroot rfl hroot rfl hsep hchild hid hkey

/-! ### Every ticket of a family is there once -/

/-- What is found among the tickets that go with a proxy-granting ticket is the ticket itself, or
names it as its parent. -/
theorem WellLinked.cases_of_mem_familyVia (hm : s.WellLinked m) (hsep : s.Separates (s.InPlay m))
    (hroot : s.Stores m (.session root)) (hid : id ∈ root.proxies.keys) {child : String}
    (hchild : child ∈ s.familyVia m id) (hfound : s.resolve m child ≠ .ok Option.none) :
    (∃ p, s.resolve m id = .ok (some (.proxy p)) ∧ child = id) ∨
      ∃ st, s.resolve m child = .ok (some (.service st)) ∧ st.parent = id := by
  obtain ⟨p, hp, hservice | hself⟩ := mem_familyVia_iff.1 hchild
  · refine .inr ?_
    have hpid : p.id = id := hm.id_eq_of_resolve hsep (hroot.inPlay_proxy rfl hid) hp
    have hstored : s.Stores m (.proxy p) := (hm.stores_of_resolve hp).1
    rcases hm.services hstored rfl child hservice with hnone | ⟨st, hst, hparent⟩
    · exact absurd hnone hfound
    · exact ⟨st, hst, hparent.trans hpid⟩
  · exact .inl ⟨p, hp, hself⟩

/-- No service ticket of a proxy-granting ticket is the ticket itself. -/
theorem WellLinked.nodup_familyVia (hm : s.WellLinked m)
    (hfound : ∀ child ∈ s.familyVia m id, s.resolve m child ≠ .ok Option.none) :
    (s.familyVia m id).Nodup := by
  unfold familyVia at hfound ⊢
  split
  next p hp =>
    rw [hp] at hfound
    refine List.nodup_append.2 ⟨p.body.services.nodup_keys, List.nodup_cons.2 ⟨by simp, .nil⟩, ?_⟩
    rintro child hchild _ hid rfl
    obtain rfl := List.mem_singleton.1 hid
    have hstored : s.Stores m (.proxy p) := (hm.stores_of_resolve hp).1
    -- The ticket would be a service ticket, which is another kind.
    rcases hm.services hstored rfl child hchild with h | ⟨st, h, -⟩ <;> rw [hp] at h <;> cases h
  next => exact .nil

/-- What two proxy-granting tickets bring along has nothing in common. -/
theorem WellLinked.ne_of_mem_familyVia (hm : s.WellLinked m) (hsep : s.Separates (s.InPlay m))
    (hroot : s.Stores m (.session root)) (hid : id ∈ root.proxies.keys)
    (hid' : id' ∈ root.proxies.keys) (hne : id ≠ id') {child child' : String}
    (hchild : child ∈ s.familyVia m id) (hchild' : child' ∈ s.familyVia m id')
    (hfound : s.resolve m child ≠ .ok Option.none) : child ≠ child' := by
  rintro rfl
  -- A service ticket has one parent only, and is no proxy-granting ticket.
  rcases hm.cases_of_mem_familyVia hsep hroot hid hchild hfound with
    ⟨p, hp, hself⟩ | ⟨st, hst, hparent⟩
  · rcases hm.cases_of_mem_familyVia hsep hroot hid' hchild' hfound with
      ⟨-, -, hself'⟩ | ⟨st', hst', -⟩
    · exact hne (hself.symm.trans hself')
    · rw [hself, hp] at hst'
      cases hst'
  · rcases hm.cases_of_mem_familyVia hsep hroot hid' hchild' hfound with
      ⟨p', hp', hself'⟩ | ⟨st', hst', hparent'⟩
    · rw [hself', hp'] at hst
      cases hst
    · rw [hst] at hst'
      cases hst'
      exact hne (hparent.symm.trans hparent')

/-- No service ticket of a session goes with a proxy-granting ticket of the session. -/
theorem WellLinked.not_mem_familyVia (hm : s.WellLinked m) (hsep : s.Separates (s.InPlay m))
    (hroot : s.Stores m (.session root)) (hid : id ∈ root.proxies.keys) {child : String}
    (hchild : child ∈ root.services.keys) (hfound : s.resolve m child ≠ .ok Option.none) :
    child ∉ s.familyVia m id := by
  intro hmem
  rcases hm.services hroot rfl child hchild with hnone | ⟨st, hst, hparent⟩
  · exact hfound hnone
  rcases hm.cases_of_mem_familyVia hsep hroot hid hmem hfound with
    ⟨p, hp, hself⟩ | ⟨st', hst', hparent'⟩
  · rw [hself, hp] at hst
    cases hst
  · rw [hst] at hst'
    cases hst'
    -- The proxy-granting ticket would be the session.
    have hidroot : id = root.id := hparent'.symm.trans hparent
    obtain ⟨p, hp, -⟩ := mem_familyVia_iff.1 hmem
    rw [hidroot, show s.resolve m root.id = _ from hroot] at hp
    cases hp

/-- If no ticket of a family is missing, all of them are different. -/
theorem WellLinked.nodup_family (hm : s.WellLinked m) (hsep : s.Separates (s.InPlay m))
    (hroot : s.Stores m (.session root))
    (hfound : ∀ child ∈ s.family m root, s.resolve m child ≠ .ok Option.none) :
    (s.family m root).Nodup := by
  have hservices : ∀ child ∈ root.services.keys, s.resolve m child ≠ .ok Option.none := by
    intro child hchild
    exact hfound child (List.mem_append_left _ (List.mem_append_left _ hchild))
  have hvia : ∀ id ∈ root.proxies.keys, ∀ child ∈ s.familyVia m id,
      s.resolve m child ≠ .ok Option.none := by
    intro id hid child hchild
    refine hfound child (List.mem_append_left _ (List.mem_append_right _ ?_))
    exact List.mem_flatMap.2 ⟨id, hid, hchild⟩
  have hproxies : (root.proxies.keys.flatMap (s.familyVia m)).Nodup := by
    refine List.pairwise_flatMap.2 ⟨fun id hid => hm.nodup_familyVia (hvia id hid), ?_⟩
    refine root.proxies.nodup_keys.imp_of_mem ?_
    intro id id' hid hid' hne child hchild child' hchild'
    exact hm.ne_of_mem_familyVia hsep hroot hid hid' hne hchild hchild' (hvia id hid child hchild)
  -- The parts of the family: service tickets, what goes with proxy-granting tickets, the session.
  refine List.nodup_append.2 ⟨List.nodup_append.2 ⟨root.services.nodup_keys, hproxies, ?_⟩,
    List.nodup_cons.2 ⟨by simp, .nil⟩, ?_⟩
  · rintro child hchild _ hmem rfl
    obtain ⟨id, hid, hmem⟩ := List.mem_flatMap.1 hmem
    exact hm.not_mem_familyVia hsep hroot hid hchild (hservices child hchild) hmem
  · rintro child hchild _ hself rfl
    obtain rfl := List.mem_singleton.1 hself
    rcases List.mem_append.1 hchild with hchild | hchild
    · exact hm.key_ne_of_session hsep hroot hroot rfl (.inl hchild) rfl
    · obtain ⟨id, hid, hmem⟩ := List.mem_flatMap.1 hchild
      exact hm.key_not_mem_familyVia hsep hroot hid (List.mem_map_of_mem hmem)

theorem Stores.inPlay_family (hroot : s.Stores m (.session root)) (hm : s.WellLinked m)
    {child : String} (hchild : child ∈ s.family m root) : s.InPlay m child := by
  rcases List.mem_append.1 hchild with hchild | hself
  · rcases List.mem_append.1 hchild with hservice | hvia
    · exact hroot.inPlay_service rfl hservice
    · obtain ⟨id, hid, hmem⟩ := List.mem_flatMap.1 hvia
      obtain ⟨p, hp, hservice | rfl⟩ := mem_familyVia_iff.1 hmem
      · have hstored : s.Stores m (.proxy p) := (hm.stores_of_resolve hp).1
        exact hstored.inPlay_service rfl hservice
      · exact hroot.inPlay_proxy rfl hid
  · obtain rfl := List.mem_singleton.1 hself
    exact hroot.inPlay

/-- If no ticket of a family is missing, all of them stand under different keys. -/
theorem WellLinked.nodup_keys_family (hm : s.WellLinked m) (hsep : s.Separates (s.InPlay m))
    (hroot : s.Stores m (.session root))
    (hfound : ∀ child ∈ s.family m root, s.resolve m child ≠ .ok Option.none) :
    ((s.family m root).map s.key).Nodup := by
  refine List.pairwise_map.2 ((hm.nodup_family hsep hroot hfound).imp_of_mem ?_)
  intro a b ha hb hne hkey
  exact hne (hsep a b (hroot.inPlay_family hm ha) (hroot.inPlay_family hm hb) hkey)

/-! ### The size of a family -/

theorem length_flatMap_familyVia {ids : List String} {ps : List ProxyTicket}
    (h : ids.map (s.resolve m) = ps.map fun p => .ok (some (.proxy p))) :
    (ids.flatMap (s.familyVia m)).length =
      ps.length + (ps.map fun p => p.body.services.size).sum := by
  induction ids generalizing ps with
  | nil =>
    obtain rfl := List.map_eq_nil_iff.1 h.symm
    rfl
  | cons id rest ih =>
    cases ps with
    | nil => cases h
    | cons p ps =>
      obtain ⟨hp, hrest⟩ := List.cons.inj h
      rw [List.flatMap_cons, List.length_append, familyVia_of_proxy hp, ih hrest]
      simp only [List.length_append, TextMap.length_keys, List.length_cons, List.length_nil,
        List.map_cons, List.sum_cons]
      omega

/-- A session with its service tickets and proxy-granting tickets, and with the service tickets of
each of these. -/
theorem length_family {ps : List ProxyTicket}
    (h : root.proxies.keys.map (s.resolve m) = ps.map fun p => .ok (some (.proxy p))) :
    (s.family m root).length =
      1 + root.services.size + ps.length + (ps.map fun p => p.body.services.size).sum := by
  rw [family, List.length_append, List.length_append, length_flatMap_familyVia h,
    TextMap.length_keys, List.length_singleton]
  omega

end SignOn.Sealing
