import SignOn.Proofs.Registry.Cascade
import SignOn.Proofs.Registry.Deletion
import SignOn.Proofs.Registry.Mirror

/-!
# Resuming a deletion

A deletion puts a session again whenever one of its proxy-granting tickets goes, so it stops where
the cipher refuses to encrypt. By then an arbitrary part of the family may be gone, and some of the
proxy-granting tickets are not listed any more. But a ticket is struck off only when its service
tickets are gone and it goes itself next, which cannot fail. So the session still lists whatever is
left of its family, and a deletion that is tried again finds all of it.

## Main definitions

* `Sealing.ReadsAs` - two sealings open the same tickets under the same keys
* `Sealing.Underway` - what is left of a store in which a session is being deleted
* `Sealing.SameTickets` - two stores keep the same tickets under the same keys

## Main results

* `Sealing.Underway.wellLinked` - the links of what is left are in order
* `Registry.underway_deleteSession` - a deletion of a session stops in such a store
* `Registry.removes_of_deleteProxy_error` - where a deletion of a proxy-granting ticket stops
* `Registry.delete_resumes` - a deletion that is tried again ends as if nothing had failed
-/

namespace SignOn

open SignOn.Action (Triple)

/-- The session with another list of proxy-granting tickets. -/
def Session.withProxies (body : Session) (left : TextMap Service) : Session :=
  { body with proxies := left }

namespace Sealing

variable {s s' : Sealing} {c c' : Cipher} {m m' m₀ : MemoryStore} {id : String} {t : Ticket}

/-! ### Sealings that read the same -/

/-- Two sealings open the same tickets, and both of them hide identifiers, or none does. They need
not put tickets down alike. -/
structure ReadsAs (s s' : Sealing) : Prop where
  isActive_eq : s.isActive = s'.isActive
  decode_eq : s.decode = s'.decode

theorem readsAs_of_decrypt (hc : s.active? = some c) (hc' : s'.active? = some c')
    (hdecrypt : c.decrypt = c'.decrypt) : s.ReadsAs s' := by
  refine ⟨by rw [isActive_of_active? hc, isActive_of_active? hc'], funext fun t => ?_⟩
  cases t with
  | sealed t => rw [decode_sealed hc, decode_sealed hc', opened, opened, hdecrypt]
  | _ => rw [decode_of_not_isSealed s rfl, decode_of_not_isSealed s' rfl]

namespace ReadsAs

theorem key_eq (h : s.ReadsAs s') : s.key = s'.key := by
  funext id
  rw [key, key, h.isActive_eq]

theorem resolve_eq (h : s.ReadsAs s') : s.resolve = s'.resolve := by
  funext m id
  unfold resolve
  rw [h.key_eq, h.decode_eq]

theorem redate_eq (h : s.ReadsAs s') : s.redate = s'.redate := by
  funext i
  rw [redate, redate, h.isActive_eq]

theorem familyVia_eq (h : s.ReadsAs s') : s.familyVia = s'.familyVia := by
  funext m id
  rw [familyVia, familyVia, h.resolve_eq]

theorem family_eq (h : s.ReadsAs s') : s.family = s'.family := by
  funext m root
  rw [family, family, h.familyVia_eq]

theorem stores_iff (h : s.ReadsAs s') : s.Stores m t ↔ s'.Stores m t := by
  rw [Stores, Stores, h.resolve_eq]

theorem canHold_iff (h : s.ReadsAs s') : s.CanHold t ↔ s'.CanHold t := by
  rw [CanHold, CanHold, h.isActive_eq]

theorem inPlay_iff (h : s.ReadsAs s') : s.InPlay m id ↔ s'.InPlay m id := by
  simp only [InPlay, h.stores_iff]

theorem separates (h : s.ReadsAs s') (hsep : s.Separates (s.InPlay m)) :
    s'.Separates (s'.InPlay m) := by
  intro a b ha hb hkey
  rw [← h.key_eq] at hkey
  exact hsep a b (h.inPlay_iff.2 ha) (h.inPlay_iff.2 hb) hkey

theorem wellLinked (h : s.ReadsAs s') (hm : s.WellLinked m) : s'.WellLinked m where
  entry hget := by
    rw [← h.decode_eq, ← h.key_eq]
    exact hm.entry hget
  hold hget hsealed := h.canHold_iff.1 (hm.hold hget hsealed)
  services ht := by
    rw [← h.resolve_eq]
    exact hm.services (h.stores_iff.2 ht)
  proxies ht := by
    rw [← h.resolve_eq]
    exact hm.proxies (h.stores_iff.2 ht)

end ReadsAs

/-! ### A session that is being deleted -/

/-- A session is being deleted from a store, where it was maybe put again and then has its dates as
they come back. It lists only some of its proxy-granting tickets any more. Those lead where they led
before, and the others are gone with their service tickets. Apart from the session, an entry is as
it was, or it was one of the family and is gone. -/
structure Underway (s : Sealing) (m₀ : MemoryStore) (root now : Session) (m : MemoryStore) :
    Prop where
  stores : s.Stores m (.session now)
  kept : now = root.withProxies now.proxies ∨
    now = (root.mapDates s.redate).withProxies now.proxies
  hold : ∀ {stored}, m.get? (s.key root.id) = some stored → stored.isSealed = false →
    s.CanHold stored
  sublist : ∀ {id service}, now.proxies.get? id = some service →
    root.proxies.get? id = some service
  listed : ∀ {id}, id ∈ now.proxies.keys → s.resolve m id = s.resolve m₀ id
  struck : ∀ {id}, id ∈ root.proxies.keys → id ∉ now.proxies.keys → ∀ child ∈ s.familyVia m₀ id,
    m.get? (s.key child) = Option.none
  others : ∀ {key}, key ≠ s.key root.id → m.get? key = m₀.get? key ∨
    m.get? key = Option.none ∧ key ∈ (s.family m₀ root).map s.key

variable {root now : Session} {p : ProxyTicket} {child : String}

theorem underway_refl (hm : s.Keyed m₀) (hroot : s.Stores m₀ (.session root)) :
    s.Underway m₀ root root m₀ where
  stores := hroot
  kept := .inl rfl
  hold := hm.hold
  sublist hget := hget
  listed _ := rfl
  struck hid hnot := absurd hid hnot
  others _ := .inl rfl

theorem mem_family_of_mem_familyVia (hid : id ∈ root.proxies.keys)
    (hchild : child ∈ s.familyVia m₀ id) : child ∈ s.family m₀ root :=
  List.mem_append_left _ (List.mem_append_right _ (List.mem_flatMap.2 ⟨id, hid, hchild⟩))

namespace Underway

theorem id_eq (h : s.Underway m₀ root now m) : now.id = root.id :=
  h.kept.elim (congrArg Session.id) (congrArg Session.id)

theorem services_eq (h : s.Underway m₀ root now m) : now.services = root.services :=
  h.kept.elim (congrArg Session.services) (congrArg Session.services)

theorem resolve_eq (h : s.Underway m₀ root now m) :
    s.resolve m root.id = .ok (some (.session now)) := h.id_eq ▸ h.stores

theorem mem_proxies (h : s.Underway m₀ root now m) (hid : id ∈ now.proxies.keys) :
    id ∈ root.proxies.keys := by
  obtain ⟨service, hget⟩ := TextMap.mem_keys_iff.1 hid
  exact TextMap.mem_keys_iff.2 ⟨service, h.sublist hget⟩

/-- Tickets of the family go that are not listed, and of which the session is none. -/
theorem removes (h : s.Underway m₀ root now m) {children : List String} {n : Nat}
    (hremoves : m.Removes (children.map s.key) n m')
    (hfamily : ∀ child ∈ children, child ∈ s.family m₀ root)
    (hroot : s.key root.id ∉ children.map s.key)
    (hlisted : ∀ id ∈ now.proxies.keys, s.key id ∈ children.map s.key →
      s.resolve m₀ id = .ok Option.none) :
    s.Underway m₀ root now m' where
  stores := (resolve_of_removes hremoves fun hmem => absurd (h.id_eq ▸ hmem) hroot).trans h.stores
  kept := h.kept
  hold hget := h.hold ((hremoves.get?_of_not_mem hroot).symm.trans hget)
  sublist := h.sublist
  listed {id} hid := by
    rw [← h.listed hid]
    exact resolve_of_removes hremoves fun hmem => (h.listed hid).trans (hlisted id hid hmem)
  struck hid hnot child hchild := by
    rw [hremoves.get?_eq, h.struck hid hnot child hchild, ite_self]
  others {key} hne := by
    by_cases hmem : key ∈ children.map s.key
    · refine .inr ⟨by rw [hremoves.get?_eq, if_pos hmem], ?_⟩
      obtain ⟨child, hchild, hkey⟩ := List.mem_map.1 hmem
      exact List.mem_map.2 ⟨child, hfamily child hchild, hkey⟩
    · rw [hremoves.get?_of_not_mem hmem]
      exact h.others hne

/-- If a ticket has no service tickets any more, what goes with tickets that are not listed without
it is gone, but for the ticket itself. -/
theorem get?_of_not_mem_erase (h : s.Underway m₀ root now m)
    (hp : s.resolve m₀ id = .ok (some (.proxy p)))
    (hservices : ∀ child ∈ p.body.services.keys, m.get? (s.key child) = Option.none)
    {other : String} (hother : other ∈ root.proxies.keys)
    (hnot : other ∉ (now.removeProxy id).proxies.keys)
    (hchild : child ∈ s.familyVia m₀ other) (hne : s.key child ≠ s.key id) :
    m.get? (s.key child) = Option.none := by
  by_cases hleft : other ∈ now.proxies.keys
  · -- It was listed until now, so it is the struck ticket.
    obtain rfl : other = id := by
      by_contra hne
      exact hnot ((TextMap.mem_keys_erase now.proxies id other).2 ⟨hne, hleft⟩)
    rw [familyVia_of_proxy hp] at hchild
    rcases List.mem_append.1 hchild with hservice | hself
    · exact hservices child hservice
    · exact absurd (congrArg s.key (List.mem_singleton.1 hself)) hne
  · exact h.struck hother hleft child hchild

/-- A proxy-granting ticket without service tickets is struck off the list, and then goes. -/
theorem strike (h : s.Underway m₀ root now m) (hm : s.WellLinked m₀)
    (hsep : s.Separates (s.InPlay m₀)) (hroot : s.Stores m₀ (.session root))
    (hid : id ∈ now.proxies.keys) (hp : s.resolve m₀ id = .ok (some (.proxy p)))
    (hservices : ∀ child ∈ p.body.services.keys, m.get? (s.key child) = Option.none)
    (hputs : s.Puts m (.session ((now.removeProxy id).mapDates s.redate)) m') :
    s.Underway m₀ root ((now.removeProxy id).mapDates s.redate) (m'.delete (s.key id)) := by
  obtain ⟨stored, hput, hstored, hhold⟩ := hputs
  replace hput : m' = m.put (s.key root.id) stored := h.id_eq ▸ hput
  have hproxies := h.mem_proxies hid
  have hne : s.key root.id ≠ s.key id :=
    (hm.key_ne_of_session hsep hroot hroot rfl (.inr hproxies)).symm
  -- Only the entries of the session and of the struck ticket change.
  have hself : (m'.delete (s.key id)).get? (s.key root.id) = some stored := by
    rw [MemoryStore.get?_delete, if_neg hne, hput]
    exact MemoryStore.get?_put_self m _ stored
  have hother : ∀ {key}, key ≠ s.key root.id →
      (m'.delete (s.key id)).get? key = if key = s.key id then Option.none else m.get? key := by
    intro key hkey
    rw [MemoryStore.get?_delete, hput, MemoryStore.get?_put_of_ne m stored hkey]
  refine { stores := ?_, kept := .inr ?_, hold := ?_, sublist := ?_, listed := ?_, struck := ?_,
           others := ?_ }
  · refine resolve_eq_some_iff.2 ⟨(resolve_eq_some_iff.1 h.stores).1, stored, ?_, hstored⟩
    exact (congrArg _ (congrArg s.key h.id_eq)).trans hself
  · -- What is put has its dates as they come back, whether or not it was put before.
    rcases h.kept with hkept | hkept
    · exact congrArg (fun body => (body.removeProxy id).mapDates s.redate) hkept
    · refine (congrArg (fun body => (body.removeProxy id).mapDates s.redate) hkept).trans ?_
      exact congrArg (·.withProxies (now.proxies.erase id)) (s.mapDates_mapDates_redate root)
  · intro kept hget
    obtain rfl := Option.some.inj (hself.symm.trans hget)
    exact hhold
  · intro other service hget
    rw [Session.proxies_mapDates, Session.removeProxy, TextMap.get?_erase] at hget
    split at hget
    · cases hget
    · exact h.sublist hget
  · intro other hmem
    obtain ⟨hne, hmem⟩ := (TextMap.mem_keys_erase now.proxies id other).1 hmem
    have hproxies' := h.mem_proxies hmem
    have hkey : s.key other ≠ s.key id := fun hkey => hne <|
      hsep _ _ (hroot.inPlay_proxy rfl hproxies') (hroot.inPlay_proxy rfl hproxies) hkey
    rw [← h.listed hmem]
    refine resolve_congr ((hother ?_).trans (if_neg hkey))
    exact hm.key_ne_of_session hsep hroot hroot rfl (.inr hproxies')
  · intro other hmem hnot child hchild
    rw [hother fun hkey => hm.key_not_mem_familyVia hsep hroot hmem
      (List.mem_map.2 ⟨child, hchild, hkey⟩)]
    exact ite_eq_left_iff.2 (h.get?_of_not_mem_erase hp hservices hmem hnot hchild)
  · intro key hkey
    rw [hother hkey]
    by_cases hkeyid : key = s.key id
    · rw [if_pos hkeyid]
      refine .inr ⟨rfl, List.mem_map.2 ⟨id, ?_, hkeyid.symm⟩⟩
      exact mem_family_of_mem_familyVia hproxies (mem_familyVia_iff.2 ⟨p, hp, .inr rfl⟩)
    · rw [if_neg hkeyid]
      exact h.others hkey

/-! ### What is left -/

/-- An entry is that of the session, or was there before. -/
theorem cases_of_get? (h : s.Underway m₀ root now m) {key : String} {stored : Ticket}
    (hget : m.get? key = some stored) :
    key = s.key root.id ∧ s.decode stored = .ok (.session now) ∧
        (stored.isSealed = false → s.CanHold stored) ∨
      m₀.get? key = some stored := by
  by_cases hkey : key = s.key root.id
  · obtain ⟨-, kept, hkept, hdecode⟩ := resolve_eq_some_iff.1 h.stores
    rw [Ticket.id, h.id_eq, ← hkey] at hkept
    obtain rfl : stored = kept := Option.some.inj (hget.symm.trans hkept)
    exact .inl ⟨hkey, hdecode, h.hold (hkey ▸ hget)⟩
  · rcases h.others hkey with hsame | ⟨hgone, -⟩
    · exact .inr (hsame.symm.trans hget)
    · rw [hgone] at hget
      cases hget

/-- A ticket is the session with a shorter list, or was there before. -/
theorem cases_of_stores (h : s.Underway m₀ root now m) (ht : s.Stores m t) :
    t = .session now ∨ s.Stores m₀ t := by
  obtain ⟨hblank, stored, hget, hdecode⟩ := resolve_eq_some_iff.1 ht
  rcases h.cases_of_get? hget with ⟨-, hroot, -⟩ | hbefore
  · exact .inl (Except.ok.inj (hdecode.symm.trans hroot))
  · exact .inr (resolve_eq_some_iff.2 ⟨hblank, stored, hbefore, hdecode⟩)

/-- An identifier with another key than the session leads where it led before, or to nothing. -/
theorem resolve_eq_or_eq_none (h : s.Underway m₀ root now m) (hne : s.key id ≠ s.key root.id) :
    s.resolve m id = s.resolve m₀ id ∨ s.resolve m id = .ok Option.none := by
  rcases h.others hne with hsame | ⟨hgone, -⟩
  · exact .inl (resolve_congr hsame)
  · exact .inr (resolve_of_get?_eq_none hgone)

/-- Every identifier that is in play was in play before. -/
theorem inPlay (h : s.Underway m₀ root now m) (hroot : s.Stores m₀ (.session root))
    (hid : s.InPlay m id) : s.InPlay m₀ id := by
  obtain ⟨t, ht, hmentions⟩ := hid
  rcases h.cases_of_stores ht with rfl | ht
  · rcases hmentions with rfl | ⟨body, hbody, hlisted⟩
    · rw [Ticket.id, h.id_eq]
      exact hroot.inPlay
    · obtain rfl := Option.some.inj hbody
      rw [h.services_eq] at hlisted
      exact ⟨.session root, hroot, .inr ⟨root, rfl, hlisted.imp_right h.mem_proxies⟩⟩
  · exact ⟨t, ht, hmentions⟩

theorem keyed (h : s.Underway m₀ root now m) (hm : s.Keyed m₀) : s.Keyed m where
  entry hget := by
    rcases h.cases_of_get? hget with ⟨hkey, hdecode, -⟩ | hbefore
    · exact ⟨_, hdecode, (resolve_eq_some_iff.1 h.stores).1,
        hkey.trans (congrArg s.key h.id_eq.symm)⟩
    · exact hm.entry hbefore
  hold hget := by
    rcases h.cases_of_get? hget with ⟨-, -, hhold⟩ | hbefore
    · exact hhold
    · exact hm.hold hbefore

/-- The links of what is left are in order. -/
theorem wellLinked (h : s.Underway m₀ root now m) (hm : s.WellLinked m₀)
    (hsep : s.Separates (s.InPlay m₀)) (hroot : s.Stores m₀ (.session root)) : s.WellLinked m := by
  -- The session lists no more than before, and the other tickets list what they did.
  have hlisted : ∀ {t body}, s.Stores m t → t.session? = some body → ∃ t₀ body₀, s.Stores m₀ t₀ ∧
      t₀.session? = some body₀ ∧ t₀.id = t.id ∧ body.services = body₀.services ∧
      ∀ child ∈ body.proxies.keys, child ∈ body₀.proxies.keys := by
    intro t body ht hbody
    rcases h.cases_of_stores ht with rfl | ht
    · obtain rfl := Option.some.inj hbody
      exact ⟨.session root, root, hroot, rfl, h.id_eq.symm, h.services_eq,
        fun child => h.mem_proxies⟩
    · exact ⟨t, body, ht, hbody, rfl, rfl, fun child hchild => hchild⟩
  refine { toKeyed := h.keyed hm.toKeyed, services := ?_, proxies := ?_ }
  · intro t body ht hbody child hchild
    obtain ⟨t₀, body₀, ht₀, hbody₀, hid, hservices, -⟩ := hlisted ht hbody
    rw [hservices] at hchild
    rw [← hid]
    rcases h.resolve_eq_or_eq_none (hm.key_ne_of_session hsep hroot ht₀ hbody₀ (.inl hchild)) with
      hsame | hgone
    · rw [hsame]
      exact hm.services ht₀ hbody₀ child hchild
    · exact .inl hgone
  · intro t body ht hbody child hchild
    obtain ⟨t₀, body₀, ht₀, hbody₀, hid, -, hproxies⟩ := hlisted ht hbody
    replace hchild := hproxies child hchild
    rw [← hid]
    rcases h.resolve_eq_or_eq_none (hm.key_ne_of_session hsep hroot ht₀ hbody₀ (.inr hchild)) with
      hsame | hgone
    · rw [hsame]
      exact hm.proxies ht₀ hbody₀ child hchild
    · exact .inl hgone

/-! ### What is left of the family -/

/-- What goes with a listed ticket is what went with it before. -/
theorem familyVia_eq (h : s.Underway m₀ root now m) (hid : id ∈ now.proxies.keys) :
    s.familyVia m id = s.familyVia m₀ id := by
  rw [familyVia, familyVia, h.listed hid]

theorem mem_family (h : s.Underway m₀ root now m)
    (hchild : child ∈ s.family m now) : child ∈ s.family m₀ root := by
  unfold family at hchild
  rw [h.services_eq, h.id_eq] at hchild
  rcases List.mem_append.1 hchild with hchild | hself
  · rcases List.mem_append.1 hchild with hservice | hvia
    · exact List.mem_append_left _ (List.mem_append_left _ hservice)
    · obtain ⟨id, hid, hvia⟩ := List.mem_flatMap.1 hvia
      rw [h.familyVia_eq hid] at hvia
      exact mem_family_of_mem_familyVia (h.mem_proxies hid) hvia
  · exact List.mem_append_right _ hself

/-- What does not belong to the family any more is gone. -/
theorem get?_eq_none (h : s.Underway m₀ root now m) (hchild : child ∈ s.family m₀ root)
    (hnot : child ∉ s.family m now) : m.get? (s.key child) = Option.none := by
  unfold family at hnot
  rw [h.services_eq, h.id_eq] at hnot
  rcases List.mem_append.1 hchild with hchild | hself
  · rcases List.mem_append.1 hchild with hservice | hvia
    · exact absurd (List.mem_append_left _ (List.mem_append_left _ hservice)) hnot
    · obtain ⟨id, hid, hvia⟩ := List.mem_flatMap.1 hvia
      refine h.struck hid (fun hleft => hnot ?_) child hvia
      rw [← h.familyVia_eq hleft] at hvia
      exact List.mem_append_left _
        (List.mem_append_right _ (List.mem_flatMap.2 ⟨id, hleft, hvia⟩))
  · exact absurd (List.mem_append_right _ hself) hnot

/-- Without its family, what is left is the store from before without the family. -/
theorem get?_of_removes (h : s.Underway m₀ root now m) {n n₀ : Nat} {rest rest₀ : MemoryStore}
    (hleft : m.Removes ((s.family m now).map s.key) n rest)
    (hall : m₀.Removes ((s.family m₀ root).map s.key) n₀ rest₀) (key : String) :
    rest.get? key = rest₀.get? key := by
  rw [hleft.get?_eq, hall.get?_eq]
  by_cases hmem : key ∈ (s.family m₀ root).map s.key
  · rw [if_pos hmem]
    refine ite_eq_left_iff.2 fun hnot => ?_
    obtain ⟨child, hchild, rfl⟩ := List.mem_map.1 hmem
    exact h.get?_eq_none hchild fun hchild => hnot (List.mem_map_of_mem hchild)
  · have hnot : key ∉ (s.family m now).map s.key := by
      intro hleft
      obtain ⟨child, hchild, hkey⟩ := List.mem_map.1 hleft
      exact hmem (List.mem_map.2 ⟨child, h.mem_family hchild, hkey⟩)
    rw [if_neg hmem, if_neg hnot]
    refine (h.others ?_).resolve_right fun hgone => hmem hgone.2
    rintro rfl
    exact hmem (List.mem_map_of_mem (List.mem_append_right _ List.mem_cons_self))

/-- What a listed identifier still leads to is a proxy-granting ticket of the session. -/
theorem listed_of_resolve (h : s.Underway m₀ root now m) (hm : s.WellLinked m₀)
    (hsep : s.Separates (s.InPlay m₀)) (hroot : s.Stores m₀ (.session root))
    (hid : id ∈ root.proxies.keys) (hfound : s.resolve m id = .ok (some t)) :
    id ∈ now.proxies.keys ∧ ∃ p, t = .proxy p ∧ s.resolve m₀ id = .ok (some (.proxy p)) ∧
      p.parent = root.id := by
  have hkey := hm.key_ne_of_session hsep hroot hroot rfl (.inr hid)
  have hbefore : s.resolve m₀ id = .ok (some t) := by
    rcases h.resolve_eq_or_eq_none hkey with hsame | hgone
    · exact hsame.symm.trans hfound
    · rw [hgone] at hfound
      cases hfound
  rcases hm.proxies hroot rfl id hid with hnone | ⟨p, hp, hparent⟩
  · rw [hbefore] at hnone
    cases hnone
  obtain rfl : t = .proxy p := by
    rw [hbefore] at hp
    cases hp
    rfl
  refine ⟨?_, p, rfl, hp, hparent⟩
  -- If it were struck off, it would be gone.
  by_contra hnot
  have hgone := h.struck hid hnot id (mem_familyVia_iff.2 ⟨p, hp, .inr rfl⟩)
  rw [resolve_of_get?_eq_none hgone] at hfound
  cases hfound

/-- It does not matter which of two sealings that read the same looks at the store. -/
theorem of_readsAs (h : s.Underway m₀ root now m) (hreads : s.ReadsAs s') :
    s'.Underway m₀ root now m where
  stores := hreads.stores_iff.1 h.stores
  kept := hreads.redate_eq ▸ h.kept
  hold := by
    rw [← hreads.key_eq]
    exact fun hget hsealed => hreads.canHold_iff.1 (h.hold hget hsealed)
  sublist := h.sublist
  listed := by
    rw [← hreads.resolve_eq]
    exact h.listed
  struck := by
    rw [← hreads.familyVia_eq, ← hreads.key_eq]
    exact h.struck
  others := by
    rw [← hreads.family_eq, ← hreads.key_eq]
    exact h.others

end Underway

theorem Keyed.sound (hm : s.Keyed m) : s.Sound m := by
  intro key stored hget
  obtain ⟨t, ht, -, -⟩ := hm.entry hget
  exact ⟨t, ht, hm.canHold (hm.stores_of_get? hget ht).1⟩

theorem Sound.removes (hm : s.Sound m) {keys : List String} {n : Nat} (h : m.Removes keys n m') :
    s.Sound m' := by
  intro key stored hget
  rw [h.get?_eq] at hget
  split at hget
  · cases hget
  · exact hm key stored hget

/-- Two stores have the same keys, and what is kept under them is opened to the same tickets. -/
def SameTickets (s : Sealing) (m m' : MemoryStore) : Prop :=
  ∀ key, (m.get? key).map s.decode = (m'.get? key).map s.decode

end Sealing

/-- A session is being deleted, whatever is kept for it now. -/
def World.Underway (s : Sealing) (m₀ : MemoryStore) (root : Session) (w : World MemoryStore) :
    Prop :=
  ∃ now, s.Underway m₀ root now w.store

namespace Registry

variable {r : Registry MemoryStore} {m m₀ : MemoryStore} {root now : Session} {p : ProxyTicket}
  {t : Ticket} {body : Session} {id : String} {n : Nat}
  {w w' : World MemoryStore} {e : RegistryError}

/-! ### Where the deletion of a session stops -/

section Session

variable (hr : r.InMemory) (hm : r.sealing.WellLinked m₀)
  (hsep : r.sealing.Separates (r.sealing.InPlay m₀)) (hroot : r.sealing.Stores m₀ (.session root))

include hr hm hsep hroot

/-- The service tickets of the session or of one of its proxy-granting tickets go. -/
theorem underway_deleteServices (ht : r.sealing.Stores m₀ t) (hbody : t.session? = some body)
    (hfamily : ∀ child ∈ body.services.keys, child ∈ r.sealing.family m₀ root)
    (now : Session) (E : World MemoryStore → Prop) :
    (r.deleteServices body).Triple (fun w => r.sealing.Underway m₀ root now w.store)
      (fun _ w => r.sealing.Underway m₀ root now w.store ∧
        ∀ child ∈ body.services.keys, w.store.get? (r.sealing.key child) = none) E := by
  intro w hw
  obtain ⟨n, m, hrun, hremoves⟩ := deleteEach_run hr body.services.keys w
  rw [deleteServices, hrun]
  refine ⟨hw.removes hremoves hfamily ?_ fun id hid hmem => ?_, fun child hchild => ?_⟩
  · exact hm.key_not_mem_services ht hbody hroot rfl
  · obtain ⟨child, hchild, hkey⟩ := List.mem_map.1 hmem
    exact hm.resolve_eq_none_of_key_eq ht hbody hroot rfl hsep hchild (hw.mem_proxies hid) hkey
  · show m.get? _ = none
    rw [hremoves.get?_eq, if_pos (List.mem_map_of_mem hchild)]

variable (hs : r.sealing.Opens)

include hs

/-- A deletion of a listed proxy-granting ticket strikes it off and removes it, or stops before
that. -/
theorem underway_deleteProxy (hid : id ∈ root.proxies.keys)
    (hp : r.sealing.resolve m₀ id = .ok (some (.proxy p))) (hparent : p.parent = root.id)
    (now : Session) (hleft : id ∈ now.proxies.keys) :
    (r.deleteProxy p).Triple (fun w => r.sealing.Underway m₀ root now w.store)
      (fun _ => World.Underway r.sealing m₀ root) (World.Underway r.sealing m₀ root) := by
  have hpid : p.id = id := hm.id_eq_of_resolve hsep (hroot.inPlay_proxy rfl hid) hp
  have hfamily : ∀ child ∈ p.body.services.keys, child ∈ r.sealing.family m₀ root :=
    fun child hchild => Sealing.mem_family_of_mem_familyVia hid
      (Sealing.mem_familyVia_iff.2 ⟨p, hp, .inl hchild⟩)
  refine (underway_deleteServices hr hm hsep hroot (hm.stores_of_resolve hp).1 rfl hfamily now
    _).bind fun _ => ?_
  -- Between the update and the deletion the ticket is not listed, but still there.
  refine Triple.bind (Q := fun _ w => ∃ now,
    r.sealing.Underway m₀ root now (w.store.delete (r.sealing.key p.id))) ?_ fun _ => ?_
  · rintro w ⟨hw, hservices⟩
    have hfound : r.sealing.resolve w.store p.parent = .ok (some (.session now)) :=
      hparent ▸ hw.resolve_eq
    rw [detach_of_session? hr hfound rfl, hpid]
    refine (triple_update hr hs (fun _ => rfl) w.store).mono (fun _ hw => hw) ?_ ?_ w rfl
    · exact fun _ w' hputs => ⟨_, hw.strike hm hsep hroot hleft hp hservices hputs⟩
    · exact fun w' hsame => ⟨now, hsame.1 ▸ hw⟩
  · exact (triple_deleteOne hr p.id (fun _ m => ∃ now, r.sealing.Underway m₀ root now m) _).bind
      fun _ => .pure fun _ hw => hw

theorem underway_deleteLinked (hid : id ∈ root.proxies.keys) :
    (r.deleteLinked id).Triple (World.Underway r.sealing m₀ root)
      (fun _ => World.Underway r.sealing m₀ root) (World.Underway r.sealing m₀ root) := by
  refine (triple_find_keeps hr id).bind fun found => ?_
  cases found with
  | none => exact .pure fun _ hw => hw.1
  | some t =>
    rintro w ⟨⟨now, hw⟩, hfound⟩
    obtain ⟨hleft, p, rfl, hp, hparent⟩ := hw.listed_of_resolve hm hsep hroot hid hfound
    exact underway_deleteProxy hr hm hsep hroot hs hid hp hparent now hleft w hw

theorem underway_deleteEachLinked {ids : List String} (hids : ∀ id ∈ ids, id ∈ root.proxies.keys) :
    (r.deleteEachLinked ids).Triple (World.Underway r.sealing m₀ root)
      (fun _ => World.Underway r.sealing m₀ root) (World.Underway r.sealing m₀ root) := by
  induction ids with
  | nil => exact .pure fun _ hw => hw
  | cons id rest ih =>
    obtain ⟨hid, hrest⟩ := List.forall_mem_cons.1 hids
    exact (underway_deleteLinked hr hm hsep hroot hs hid).bind fun _ =>
      (ih hrest).bind fun _ => .pure fun _ hw => hw

/-- After the last update nothing fails any more. -/
theorem underway_deleteProxies :
    (r.deleteProxies root).Triple (World.Underway r.sealing m₀ root) (fun _ _ => True)
      (World.Underway r.sealing m₀ root) := by
  cases hempty : root.proxies.isEmpty with
  | true =>
    rw [deleteProxies, if_pos hempty]
    exact .pure fun _ _ => trivial
  | false =>
    rw [deleteProxies, if_neg (by rw [hempty]; exact Bool.false_ne_true)]
    refine (underway_deleteEachLinked hr hm hsep hroot hs fun _ hid => hid).bind fun _ => ?_
    refine Triple.bind (Q := fun _ _ => True) ?_ fun _ => .pure fun _ _ => trivial
    rintro w ⟨now, hw⟩
    refine (triple_update hr hs (fun _ => rfl) w.store).mono (fun _ hw => hw)
      (fun _ _ _ => trivial) (fun w' hsame => ?_) w rfl
    exact ⟨now, hsame.1 ▸ hw⟩

/-- A deletion of a session stops where the session is being deleted. -/
theorem underway_deleteSession :
    (r.deleteSession root).Triple (fun w => w.store = m₀) (fun _ _ => True)
      (World.Underway r.sealing m₀ root) := by
  have hservices := underway_deleteServices hr hm hsep hroot hroot rfl
    (fun child hchild => List.mem_append_left _ (List.mem_append_left _ hchild)) root
    (World.Underway r.sealing m₀ root)
  refine (hservices.mono (fun w hw => ?_) (fun _ w hw => ⟨root, hw.1⟩)
    fun _ hw => hw).bind fun _ => (underway_deleteProxies hr hm hsep hroot hs).bind fun _ => ?_
  · rw [hw]
    exact Sealing.underway_refl hm.toKeyed hroot
  · exact (triple_deleteOne hr root.id (fun _ _ => True) _).bind fun _ => .pure fun _ _ => trivial

end Session

/-! ### Where the deletion of a proxy-granting ticket stops -/

/-- Striking a ticket off fails only where its parent is to be put again. -/
theorem triple_detach_stops (hr : r.InMemory) (hs : r.sealing.Opens) (hm : r.sealing.Sound m)
    (p : ProxyTicket) :
    (r.detach p).Triple (fun w => w.store = m) (fun _ _ => True) fun w => w.store = m ∧
      ∃ t body, r.sealing.resolve m p.parent = .ok (some t) ∧ t.session? = some body := by
  have hupdate : ∀ {t body}, t.session? = some body →
      (r.update (t.mapSession (·.removeProxy p.id))).Triple
        (fun w => w.store = m ∧ r.sealing.resolve w.store p.parent = .ok (some t))
        (fun _ _ => True) fun w => w.store = m ∧
          ∃ t body, r.sealing.resolve m p.parent = .ok (some t) ∧ t.session? = some body := by
    rintro t body hbody w ⟨rfl, hparent⟩
    refine (triple_update hr hs (fun _ => ?_) w.store).mono (fun _ hw => hw) (fun _ _ _ => trivial)
      (fun w' hsame => ⟨hsame.1, t, body, hparent, hbody⟩) w rfl
    exact (Ticket.isSealed_mapSession _ t).trans (Ticket.isSealed_of_session? hbody)
  refine (Triple.mono (triple_find hr p.parent) (fun _ hw => hw) (fun _ _ hw => hw) ?_).bind
    fun found => ?_
  · rintro w ⟨rfl, e, hfails⟩
    exact absurd hfails (hm.resolve_ne_error p.parent e)
  · cases found with
    | none => exact .pure fun _ _ => trivial
    | some t =>
      cases t with
      | session t => exact hupdate rfl
      | proxy t => exact hupdate rfl
      | service t => exact .pure fun _ _ => trivial
      | sealed t => exact .pure fun _ _ => trivial

/-- A deletion of a proxy-granting ticket stops where its parent is to be put again. Then only its
service tickets are gone. -/
theorem removes_of_deleteProxy_error (hr : r.InMemory) (hs : r.sealing.Opens)
    (hm : r.sealing.Keyed w.store) (hfails : r.deleteProxy p w = .error e w') :
    ∃ n t body, w.store.Removes (p.body.services.keys.map r.sealing.key) n w'.store ∧
      r.sealing.resolve w.store p.parent = .ok (some t) ∧ t.session? = some body := by
  obtain ⟨n, m, hservices, hremoves⟩ := deleteEach_run hr p.body.services.keys w
  rw [deleteProxy, deleteServices, Action.bind_of_ok hservices] at hfails
  obtain ⟨hstore, t, body, hparent, hbody⟩ :=
    ((triple_detach_stops hr hs (hm.sound.removes hremoves) p).bind fun _ =>
      (triple_deleteOne hr p.id (fun _ _ => True) _).bind fun _ =>
        .pure (Q := fun _ _ => True) fun _ _ => trivial).of_error rfl hfails
  refine ⟨n, t, body, hstore ▸ hremoves, ?_, hbody⟩
  rcases Sealing.resolve_eq_or_eq_none_of_removes hremoves p.parent with hsame | hgone
  · exact hsame.symm.trans hparent
  · rw [hgone] at hparent
    cases hparent

/-! ### Trying again -/

/-- On what is left of the store, the deletion of the session ends as on the whole store. -/
theorem deleteSession_resumes (hr : r.InMemory) (hs : r.sealing.Reliable)
    (hm : r.sealing.WellLinked m₀) (hsep : r.sealing.Separates (r.sealing.InPlay m₀))
    (hroot : r.sealing.Stores m₀ (.session root)) (h : r.sealing.Underway m₀ root now m)
    (tape tape' : Tape) (metrics metrics' : Metrics) :
    ∃ n v n' v', r.deleteSession now ⟨m, tape, metrics⟩ = .ok n v ∧
      r.deleteSession root ⟨m₀, tape', metrics'⟩ = .ok n' v' ∧
      r.sealing.SameTickets v.store v'.store := by
  have hsepleft : r.sealing.Separates (r.sealing.InPlay m) := hsep.mono fun _ => h.inPlay hroot
  obtain ⟨n, rest, rtape, hrun, hremoves⟩ :=
    @deleteSession_run r ⟨m, tape, metrics⟩ _ hr hs (h.wellLinked hm hsep hroot) hsepleft h.stores
  obtain ⟨n', rest', rtape', hrun', hremoves'⟩ :=
    @deleteSession_run r ⟨m₀, tape', metrics'⟩ root hr hs hm hsep hroot
  refine ⟨n, _, n', _, hrun, hrun', fun key => ?_⟩
  exact congrArg _ (h.get?_of_removes hremoves hremoves' key)

/-- Without its service tickets, a proxy-granting ticket is deleted as with them. -/
theorem deleteProxy_resumes (hr : r.InMemory) (hs : r.sealing.Reliable)
    (hm : r.sealing.WellLinked m₀) (hp : r.sealing.Stores m₀ (.proxy p))
    (hparent : r.sealing.resolve m₀ p.parent = .ok (some t)) (hbody : t.session? = some body)
    (h : m₀.Removes (p.body.services.keys.map r.sealing.key) n m)
    (tape tape' : Tape) (metrics metrics' : Metrics) :
    ∃ n v n' v', r.deleteProxy p ⟨m, tape, metrics⟩ = .ok n v ∧
      r.deleteProxy p ⟨m₀, tape', metrics'⟩ = .ok n' v' ∧
      r.sealing.SameTickets v.store v'.store := by
  have hkey := hm.key_not_mem_services hp rfl hparent hbody
  have hparent' : r.sealing.resolve m p.parent = .ok (some t) :=
    (Sealing.resolve_of_removes h fun hmem => absurd hmem hkey).trans hparent
  obtain ⟨hstores, hid⟩ := hm.stores_of_resolve hparent
  have hhold := hm.canHold hstores
  obtain ⟨n, rest, stored, rtape, hrun, hstored, hremoves⟩ :=
    @deleteProxy_run r ⟨m, tape, metrics⟩ p t body hr hs hparent' hbody hid.symm hhold hkey
  obtain ⟨n', rest', stored', rtape', hrun', hstored', hremoves'⟩ :=
    @deleteProxy_run r ⟨m₀, tape', metrics'⟩ p t body hr hs hparent hbody hid.symm hhold hkey
  refine ⟨n, _, n', _, hrun, hrun', fun key => ?_⟩
  rw [hremoves.get?_eq, hremoves'.get?_eq]
  by_cases hmem : key ∈ (p.body.services.keys ++ [p.id]).map r.sealing.key
  · rw [if_pos hmem, if_pos hmem]
  · -- What is left are the parent, which is put from the same ticket, and what was never touched.
    rw [if_neg hmem, if_neg hmem, MemoryStore.get?_put, MemoryStore.get?_put]
    rw [List.map_append, List.mem_append, not_or] at hmem
    by_cases hkeyparent : key = r.sealing.key p.parent
    · rw [if_pos hkeyparent, if_pos hkeyparent, Option.map_some, Option.map_some, hstored, hstored']
    · rw [if_neg hkeyparent, if_neg hkeyparent, h.get?_of_not_mem hmem.1]

/-- A deletion of a ticket that is found fails only where that of the ticket with its family
fails. -/
theorem deleteTree_of_delete_error (hr : r.InMemory)
    (hfound : r.sealing.resolve w.store id = .ok (some t)) (hfails : r.delete id w = .error e w') :
    r.deleteTree t w = .error e w' := by
  rw [delete, Action.bind_of_ok (find_of_resolve hr hfound)] at hfails
  simp only at hfails
  cases htree : r.deleteTree t w with
  | ok n v =>
    rw [deleteResolved, Action.bind_of_ok htree] at hfails
    cases hfails
  | error e' v =>
    rw [deleteResolved, Action.bind_of_error htree] at hfails
    exact hfails

/-- To delete a session that lists proxy-granting tickets, it has to be encrypted without them. -/
theorem exists_delete_error (hr : r.InMemory) (hroot : r.sealing.Stores w.store (.session root))
    (hproxies : root.proxies.isEmpty = false)
    (hrefuses : ∀ nonce stored, r.sealing.encode nonce (.session root.clearProxies) ≠ .ok stored) :
    ∃ e w', r.delete root.id w = .error e w' := by
  have hupdate : (r.update (.session root.clearProxies)).Triple (fun _ => True) (fun _ _ => False)
      (fun _ => True) := by
    intro v _
    obtain ⟨nonce, tape, -, hencode⟩ := encode_run r (.session root.clearProxies) v
    cases hresult : r.sealing.encode nonce (.session root.clearProxies) with
    | ok stored => exact absurd hresult (hrefuses nonce stored)
    | error e =>
      rw [hresult] at hencode
      rw [update, Action.bind_of_error hencode]
      trivial
  have hlisted : (r.deleteProxies root).Triple (fun _ => True) (fun _ _ => False)
      (fun _ => True) := by
    rw [deleteProxies, if_neg (by rw [hproxies]; exact Bool.false_ne_true)]
    exact (Triple.trivial _).bind fun _ => hupdate.bind fun _ => .pure fun _ hw => hw
  have htree : (r.deleteSession root).Triple (fun _ => True) (fun _ _ => False) (fun _ => True) :=
    (Triple.trivial _).bind fun _ => hlisted.bind fun _ _ hw => hw.elim
  cases hdelete : r.delete root.id w with
  | error e w' => exact ⟨e, w', rfl⟩
  | ok n w' =>
    have hfound : r.find root.id w = .ok (some (.session root)) w := find_of_resolve hr hroot
    rw [delete, Action.bind_of_ok hfound] at hdelete
    obtain ⟨k, v, hrun, -⟩ := Action.bind_eq_ok_iff.1 hdelete
    exact (htree.of_ok trivial hrun).elim

/-- A deletion that failed can be tried again. In a well-linked store, let a session or a
proxy-granting ticket be deleted with a cipher that refuses to encrypt something on the way. Then
the ticket is still stored, with no more than some proxy-granting tickets struck off its list, and
if it was not sealed, maybe with its dates as they are read back; and if it is deleted now with a
cipher that opens the same tickets and encrypts everything, that succeeds, and ends with the same
keys and the same tickets under them as if the ticket had been deleted with that cipher at once. -/
theorem delete_resumes {r₁ r₂ : Registry MemoryStore} {c₁ c₂ : Cipher} (hr₁ : r₁.InMemory)
    (hr₂ : r₂.InMemory) (hc₁ : r₁.sealing.active? = some c₁) (hc₂ : r₂.sealing.active? = some c₂)
    (hdecrypt : c₁.decrypt = c₂.decrypt) (hround₁ : c₁.RoundTrips) (hround₂ : c₂.RoundTrips)
    (halways : c₂.AlwaysEncrypts) (hm : r₁.sealing.WellLinked w.store)
    (hfree : Sha512.CollisionFree (r₁.sealing.InPlay w.store)) (ht : r₁.sealing.Stores w.store t)
    (hbody : t.session? = some body) (hfails : r₁.delete t.id w = .error e w') :
    (∃ left t', (∀ {id service}, left.get? id = some service →
          body.proxies.get? id = some service) ∧
        r₁.sealing.Redated w.store t t' ∧
        r₁.sealing.Stores w'.store (t'.mapSession (·.withProxies left))) ∧
      ∀ (tape tape' : Tape) (metrics metrics' : Metrics), ∃ n v n' v',
        r₂.delete t.id ⟨w'.store, tape, metrics⟩ = .ok n v ∧
          r₂.delete t.id ⟨w.store, tape', metrics'⟩ = .ok n' v' ∧
          r₂.sealing.SameTickets v.store v'.store := by
  have hreads := Sealing.readsAs_of_decrypt hc₁ hc₂ hdecrypt
  have hs₁ : r₁.sealing.Opens := fun c hc => by
    obtain rfl := Option.some.inj (hc₁.symm.trans hc)
    exact hround₁
  have hs₂ : r₂.sealing.Reliable := fun c hc => by
    obtain rfl := Option.some.inj (hc₂.symm.trans hc)
    exact ⟨hround₂, halways⟩
  have hsep := Sealing.separates_of_collisionFree (s := r₁.sealing) fun _ => hfree
  have hm₂ := hreads.wellLinked hm
  have ht₂ := hreads.stores_iff.1 ht
  have htree := deleteTree_of_delete_error hr₁ ht hfails
  cases t with
  | session root =>
    obtain rfl := Option.some.inj hbody
    obtain ⟨now, hleft⟩ := (underway_deleteSession hr₁ hm hsep ht hs₁).of_error rfl htree
    refine ⟨?_, fun tape tape' metrics metrics' => ?_⟩
    · have hstores := hleft.stores
      rcases hleft.kept with hkept | hkept
      · rw [hkept] at hstores
        exact ⟨_, _, hleft.sublist, .inl rfl, hstores⟩
      · rw [hkept] at hstores
        exact ⟨_, _, hleft.sublist, ht.redated, hstores⟩
    have hleft₂ := hleft.of_readsAs hreads
    obtain ⟨n, v, n', v', hrun, hrun', hsame⟩ := deleteSession_resumes hr₂ hs₂ hm₂
      (hreads.separates hsep) ht₂ hleft₂ tape tape' metrics metrics'
    exact ⟨n, _, n', _, delete_of_resolve hr₂ hleft₂.resolve_eq hrun,
      delete_of_resolve hr₂ ht₂ hrun', hsame⟩
  | proxy p =>
    obtain rfl := Option.some.inj hbody
    obtain ⟨n, t, own, hremoves, hparent, hown⟩ :=
      removes_of_deleteProxy_error hr₁ hs₁ hm.toKeyed htree
    have hstill : r₁.sealing.Stores w'.store (.proxy p) :=
      (Sealing.resolve_of_removes hremoves fun hmem =>
        absurd hmem (hm.key_not_mem_services ht rfl ht rfl)).trans ht
    refine ⟨⟨_, _, fun hget => hget, .inl rfl, hstill⟩, fun tape tape' metrics metrics' => ?_⟩
    rw [hreads.key_eq] at hremoves
    rw [hreads.resolve_eq] at hparent
    obtain ⟨n, v, n', v', hrun, hrun', hsame⟩ := deleteProxy_resumes hr₂ hs₂ hm₂ ht₂ hparent hown
      hremoves tape tape' metrics metrics'
    have hstill₂ := hreads.stores_iff.1 hstill
    exact ⟨n, _, n', _, delete_of_resolve hr₂ hstill₂ hrun, delete_of_resolve hr₂ ht₂ hrun', hsame⟩
  | service _ => cases hbody
  | sealed _ => cases hbody

/-- With a cipher that refuses everything, a session that lists a proxy-granting ticket is not
deleted. Its service ticket goes, and the others go when it is deleted with another cipher. -/
theorem delete_resumes_refused :
    let now : Instant := ⟨⟨2024, 1, 1, by decide⟩, 0, 0, by decide, by decide⟩
    let login : Authentication := ⟨⟨"alice", .empty⟩, [], .empty, .empty, .empty, now⟩
    let root : Session := ⟨"TGT-1", now, .never, login, .ofList [("ST-1", ⟨"app"⟩)],
      .ofList [("PGT-1", ⟨"p"⟩)]⟩
    let tickets : List Ticket := [.session root,
      .service ⟨"ST-1", now, .never, "TGT-1", ⟨"app"⟩, false⟩,
      .proxy ⟨.fresh "PGT-1" login now .never, "TGT-1", ⟨"p"⟩⟩]
    let tape : Tape := ⟨fun _ => 0, 0⟩
    let c : Cipher := .masking 90 true
    let refusing : Registry MemoryStore := ⟨.memory, .withCipher (c.refusing (some "no key") none)⟩
    let w := runAll ⟨.memory, .withCipher c⟩ (tickets.map .add) ⟨.empty, tape, .empty⟩
    ∃ e w' left n v n' v', delete refusing "TGT-1" w = .error e w' ∧
      refusing.sealing.Stores w'.store (.session (root.withProxies left)) ∧
      delete ⟨.memory, .withCipher c⟩ "TGT-1" ⟨w'.store, tape, .empty⟩ = .ok n v ∧
      delete ⟨.memory, .withCipher c⟩ "TGT-1" ⟨w.store, tape, .empty⟩ = .ok n' v' ∧
      (Sealing.withCipher c).SameTickets v.store v'.store := by
  intro now login root tickets tape c refusing w
  let ids (id : String) : Prop := id ∈ ["TGT-1", "ST-1", "PGT-1"]
  have hactive : (Sealing.withCipher c).active? = some c := rfl
  have hround : c.RoundTrips := Cipher.roundTrips_masking 90 true
  have halways : c.AlwaysEncrypts := Cipher.alwaysEncrypts_masking 90 true
  have hrefuses : ∀ nonce plain text,
      (c.refusing (some "no key") none).encrypt nonce plain ≠ .ok text :=
    fun _ _ _ htext => by cases htext
  have hfree : Sha512.CollisionFree ids := Sha512.collisionFree_of_nodup (by decide +kernel)
  -- The sealed store mirrors one without encryption, of which everything is computed.
  obtain ⟨hmirrors, -⟩ := mirrors_runAll_add (Sealing.reliable_masking 90 true)
    (Sealing.separates_of_collisionFree fun _ => hfree)
    (show ∀ t ∈ tickets, _ by decide) tape tape .empty
  have hm := hmirrors.wellLinked (Sealing.wellLinked_of_isWellLinked rfl (by decide))
  have hroot : (Sealing.withCipher c).Stores w.store (.session root) :=
    hmirrors.stores_mapDates (t := .session root)
      ((Sealing.stores_iff_of_inactive rfl).2 (by decide))
  have hreads : (Sealing.withCipher c).ReadsAs refusing.sealing :=
    Sealing.readsAs_of_decrypt hactive rfl rfl
  obtain ⟨e, w', hfails⟩ := exists_delete_error (inMemory_memory refusing.sealing)
    (hreads.stores_iff.1 hroot) rfl fun nonce stored hencode => by
      obtain ⟨bytes, payload, -, hpayload, -⟩ := (Sealing.encode_eq_ok_iff rfl rfl).1 hencode
      exact hrefuses _ _ _ hpayload
  obtain ⟨⟨left, t', -, hkept, hleft⟩, hresumes⟩ := delete_resumes
    (show refusing.InMemory from inMemory_memory _) (inMemory_memory (.withCipher c)) rfl hactive rfl
    (fun nonce plain text _ htext => absurd htext (hrefuses _ _ _)) hround halways
    (hreads.wellLinked hm) (fun a b ha hb => hfree a b (hmirrors.inPlay (hreads.inPlay_iff.2 ha))
      (hmirrors.inPlay (hreads.inPlay_iff.2 hb))) (hreads.stores_iff.1 hroot) rfl hfails
  obtain ⟨n, v, n', v', hrun, hrun', hsame⟩ := hresumes tape tape .empty .empty
  obtain rfl := hkept.eq_of_onMinute (by decide)
  exact ⟨e, w', left, n, v, n', v', hfails, hleft, hrun, hrun', hsame⟩

end Registry

end SignOn
