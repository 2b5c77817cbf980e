import SignOn.Proofs.Registry.Cascade
import SignOn.Proofs.Registry.Issuing

/-!
# What a logout leaves behind

The tickets that came from a session form a tree below it, since a proxy-granting ticket can grant
tickets of its own. Deleting a session follows its proxy-granting tickets, but deleting a
proxy-granting ticket does not follow those that it granted. So in a store that an issuer filled, a
logout leaves behind exactly the proxy-granting tickets that were granted by proxy-granting tickets,
with all that came from them.

## Main definitions

* `Sealing.DescendsFrom` - the chain of parents of a ticket leads to an identifier
* `Sealing.Nested` - a proxy-granting ticket was granted by a proxy-granting ticket
* `Sealing.Spared` - a ticket is or descends from a nested one
* `Sealing.cleared` - the identifiers that a deletion removes

## Main results

* `Sealing.Forest.mem_cleared_iff` - what descends from a ticket is removed unless it is spared
* `Registry.delete_spares_nested` - a logout is complete exactly if nothing is nested
* `Registry.delete_leaves_nested` - one that is not
-/

namespace SignOn

namespace Sealing

variable {s : Sealing} {m : MemoryStore} {ids : List String} {ancestor pid : String}
  {t u c : Ticket} {body : Session} {p q : ProxyTicket}

/-! ### Descent -/

/-- The chain of parents of a stored ticket, followed through stored tickets, leads to an
identifier. -/
inductive DescendsFrom (s : Sealing) (m : MemoryStore) (ancestor : String) : Ticket → Prop where
  | child {t : Ticket} (stores : s.Stores m t) (parent : t.parent? = some ancestor) :
      DescendsFrom s m ancestor t
  | step {t u : Ticket} {pid : String} (stores : s.Stores m t) (parent : t.parent? = some pid)
      (found : s.resolve m pid = .ok (some u)) (above : DescendsFrom s m ancestor u) :
      DescendsFrom s m ancestor t

/-- A proxy-granting ticket that was granted by a proxy-granting ticket. -/
def Nested (s : Sealing) (m : MemoryStore) (q : ProxyTicket) : Prop :=
  s.Stores m (.proxy q) ∧ ∃ p, s.resolve m q.parent = .ok (some (.proxy p))

/-- A ticket that is, or descends from, a nested proxy-granting ticket below an identifier. -/
def Spared (s : Sealing) (m : MemoryStore) (ancestor : String) (c : Ticket) : Prop :=
  ∃ q, s.Nested m q ∧ s.DescendsFrom m ancestor (.proxy q) ∧
    (c = .proxy q ∨ s.DescendsFrom m q.id c)

/-- The identifiers that are removed with a ticket. -/
def cleared (s : Sealing) (m : MemoryStore) : Ticket → List String
  | .session root => s.family m root
  | .proxy p => p.body.services.keys ++ [p.id]
  | .service t => [t.id]
  | .sealed t => [t.id]

theorem DescendsFrom.stores (h : s.DescendsFrom m ancestor c) : s.Stores m c := by
  cases h with
  | child stores parent => exact stores
  | step stores parent found above => exact stores

/-! ### Descent in a forest -/

namespace Forest

theorem mem_of_inPlay (hm : s.Forest ids m) {id : String} (h : s.InPlay m id) : id ∈ ids := by
  obtain ⟨t, ht, rfl | ⟨body, hbody, hid⟩⟩ := h
  · exact hm.issued ht
  · exact hm.listed ht hbody id hid

theorem separates (hm : s.Forest ids m) (hsep : s.Separates (· ∈ ids)) :
    s.Separates (s.InPlay m) :=
  hsep.mono fun _ => hm.mem_of_inPlay

/-- A parent is found under its own identifier, and lists its children. -/
theorem resolve_parent (hm : s.Forest ids m) (ht : s.Stores m t) (hparent : t.parent? = some pid) :
    ∃ u body, s.resolve m pid = .ok (some u) ∧ u.id = pid ∧ u.session? = some body ∧
      body.Lists t := by
  obtain ⟨u, body, hu, rfl, hbody, hlists⟩ := hm.parented ht hparent
  exact ⟨u, body, hu, rfl, hbody, hlists⟩

theorem id_eq_of_parent (hm : s.Forest ids m) (ht : s.Stores m t) (hparent : t.parent? = some pid)
    (hfound : s.resolve m pid = .ok (some u)) : u.id = pid := by
  obtain ⟨v, -, hv, hid, -⟩ := hm.resolve_parent ht hparent
  rw [hv] at hfound
  cases hfound
  exact hid

/-- A ticket is younger than those that it descends from. -/
theorem rank_lt (hm : s.Forest ids m) {rank : String → Nat}
    (hrank : ∀ {t parent}, s.Stores m t → t.parent? = some parent → rank parent < rank t.id)
    (h : s.DescendsFrom m ancestor c) : rank ancestor < rank c.id := by
  induction h with
  | child stores parent => exact hrank stores parent
  | step stores parent found above ih =>
    rw [hm.id_eq_of_parent stores parent found] at ih
    exact Nat.lt_trans ih (hrank stores parent)

/-- What a ticket descends from is its parent, or older than its parent. -/
theorem rank_le_of_parent (hm : s.Forest ids m) {rank : String → Nat}
    (hrank : ∀ {t parent}, s.Stores m t → t.parent? = some parent → rank parent < rank t.id)
    (h : s.DescendsFrom m ancestor c) (hparent : c.parent? = some pid) :
    rank ancestor ≤ rank pid := by
  cases h with
  | child stores parent =>
    obtain rfl := Option.some.inj (parent.symm.trans hparent)
    exact Nat.le_refl _
  | step stores parent found above =>
    obtain rfl := Option.some.inj (parent.symm.trans hparent)
    have hlt := hm.rank_lt hrank above
    rw [hm.id_eq_of_parent stores parent found] at hlt
    exact Nat.le_of_lt hlt

/-- A ticket does not descend from what descends from its parent. -/
theorem not_descendsFrom (hm : s.Forest ids m) (hq : s.DescendsFrom m ancestor (.proxy q))
    (hparent : c.parent? = some ancestor) : ¬s.DescendsFrom m q.id c := by
  intro hc
  obtain ⟨rank, hrank⟩ := hm.older
  have hlt := hm.rank_lt hrank hq
  have hle := hm.rank_le_of_parent hrank hc hparent
  exact Nat.lt_irrefl _ (Nat.lt_of_lt_of_le hlt hle)

/-- A chain of parents enters the tree below an identifier at one of its children. -/
theorem top (hm : s.Forest ids m) (h : s.DescendsFrom m ancestor c) :
    ∃ d, s.Stores m d ∧ d.parent? = some ancestor ∧ (c = d ∨ s.DescendsFrom m d.id c) := by
  induction h with
  | child stores parent => exact ⟨_, stores, parent, .inl rfl⟩
  | @step t u pid stores parent found above ih =>
    obtain ⟨d, hd, hparent, rfl | hu⟩ := ih
    · refine ⟨u, hd, hparent, .inr (.child stores ?_)⟩
      rw [parent, hm.id_eq_of_parent stores parent found]
    · exact ⟨d, hd, hparent, .inr (.step stores parent found hu)⟩

/-- Only tickets with a body have descendants. -/
theorem session?_of_descendsFrom (hm : s.Forest ids m) (hd : s.Stores m t)
    (h : s.DescendsFrom m t.id c) : ∃ body, t.session? = some body := by
  obtain ⟨d, hd', hparent, -⟩ := hm.top h
  obtain ⟨u, body, hu, -, hbody, -⟩ := hm.resolve_parent hd' hparent
  have hstores : s.resolve m t.id = .ok (some t) := hd
  rw [hstores] at hu
  cases hu
  exact ⟨body, hbody⟩

/-- What descends from a ticket is one of its service tickets, or one of its proxy-granting tickets
with what descends from that. -/
theorem cases_of_descendsFrom (hm : s.Forest ids m) (ht : s.Stores m t)
    (hbody : t.session? = some body) (h : s.DescendsFrom m t.id c) :
    (∃ st, c = .service st ∧ st.parent = t.id ∧ st.id ∈ body.services.keys) ∨
      ∃ q, s.Stores m (.proxy q) ∧ q.parent = t.id ∧ q.id ∈ body.proxies.keys ∧
        (c = .proxy q ∨ s.DescendsFrom m q.id c) := by
  obtain ⟨d, hd, hparent, hc⟩ := hm.top h
  -- The body that lists the child is that of the ticket.
  have hlists : body.Lists d := by
    obtain ⟨u, body', hu, -, hbody', hlists⟩ := hm.resolve_parent hd hparent
    have hstores : s.resolve m t.id = .ok (some t) := ht
    rw [hstores] at hu
    cases hu
    obtain rfl := Option.some.inj (hbody.symm.trans hbody')
    exact hlists
  cases d with
  | service st =>
    rcases hc with rfl | hc
    · exact .inl ⟨st, rfl, Option.some.inj hparent, hlists⟩
    · obtain ⟨body', hnone⟩ := hm.session?_of_descendsFrom hd hc
      cases hnone
  | proxy q => exact .inr ⟨q, hd, Option.some.inj hparent, hlists, hc⟩
  | session _ => cases hparent
  | sealed _ => cases hparent

/-- What came from a ticket itself is spared only if it is nested. -/
theorem not_spared_of_parent (hm : s.Forest ids m) (hparent : c.parent? = some ancestor)
    (hkind : ∀ q, c = .proxy q → ¬s.Nested m q) : ¬s.Spared m ancestor c := by
  rintro ⟨q, hq, hbelow, rfl | hc⟩
  · exact hkind q rfl hq
  · exact hm.not_descendsFrom hbelow hparent hc

/-- A service ticket of a proxy-granting ticket that is not nested is not spared. -/
theorem not_spared_of_proxy (hm : s.Forest ids m) {st : ServiceTicket} {id : String}
    (hp : s.resolve m id = .ok (some (.proxy p)))
    (hparent : (Ticket.proxy p).parent? = some ancestor) (hnested : ¬s.Nested m p)
    (hst : st.parent = id) : ¬s.Spared m ancestor (.service st) := by
  rintro ⟨q, hq, hbelow, heq | hc⟩
  · cases heq
  · -- It descends from a nested ticket only through its parent.
    cases hc with
    | child stores parent =>
      obtain rfl := hst.symm.trans (Option.some.inj parent)
      have hqp : s.resolve m q.id = .ok (some (.proxy q)) := hq.1
      rw [hp] at hqp
      cases hqp
      exact hnested hq
    | step stores parent found above =>
      obtain rfl := hst.symm.trans (Option.some.inj parent)
      rw [hp] at found
      cases found
      exact hm.not_descendsFrom hbelow hparent above

/-! ### What a deletion removes -/

/-- What descends from a proxy-granting ticket is removed with it unless it is spared. -/
theorem mem_cleared_proxy_iff (hm : s.Forest ids m) (hp : s.Stores m (.proxy p))
    (h : s.DescendsFrom m p.id c) :
    c.id ∈ s.cleared m (.proxy p) ↔ ¬s.Spared m p.id c := by
  constructor
  · intro hmem
    rcases List.mem_append.1 hmem with hservice | hself
    · have hc : s.resolve m c.id = .ok (some c) := h.stores
      rcases hm.services hp rfl c.id hservice with hnone | ⟨st, hst, hparent⟩
      · rw [hc] at hnone
        cases hnone
      · rw [hc] at hst
        cases hst
        exact hm.not_spared_of_parent (congrArg some hparent) fun q hq => by cases hq
    · obtain ⟨rank, hrank⟩ := hm.older
      have hlt := hm.rank_lt hrank h
      rw [List.mem_singleton.1 hself] at hlt
      exact absurd hlt (Nat.lt_irrefl _)
  · intro hspared
    rcases hm.cases_of_descendsFrom hp rfl h with ⟨st, rfl, -, hservice⟩ | ⟨q, hq, hparent, -, hc⟩
    · exact List.mem_append_left _ hservice
    -- A proxy-granting ticket that came from this one is nested.
    · refine absurd ⟨q, ⟨hq, p, ?_⟩, .child hq (congrArg some hparent), hc⟩ hspared
      rw [hparent]
      exact hp

/-- What descends from a session is removed with it unless it is spared. -/
theorem mem_family_iff (hm : s.Forest ids m) (hsep : s.Separates (· ∈ ids)) {root : Session}
    (hroot : s.Stores m (.session root)) (h : s.DescendsFrom m root.id c) :
    c.id ∈ s.family m root ↔ ¬s.Spared m root.id c := by
  have hc : s.resolve m c.id = .ok (some c) := h.stores
  have hfound : s.resolve m c.id ≠ .ok Option.none := by
    rw [hc]
    exact fun h => by cases h
  -- A proxy-granting ticket of a session is not nested.
  have hnested : ∀ q, q.parent = root.id → ¬s.Nested m q := by
    rintro q hparent ⟨-, p, hp⟩
    rw [hparent, show s.resolve m root.id = _ from hroot] at hp
    cases hp
  constructor
  · intro hmem
    rcases List.mem_append.1 hmem with hmem | hself
    · rcases List.mem_append.1 hmem with hservice | hvia
      · rcases hm.services hroot rfl c.id hservice with hnone | ⟨st, hst, hparent⟩
        · exact absurd hnone hfound
        · rw [hc] at hst
          cases hst
          exact hm.not_spared_of_parent (congrArg some hparent) fun q hq => by cases hq
      · obtain ⟨id, hid, hmem⟩ := List.mem_flatMap.1 hvia
        obtain ⟨p, hp, -⟩ := mem_familyVia_iff.1 hmem
        have hpparent : p.parent = root.id := by
          rcases hm.proxies hroot rfl id hid with hnone | ⟨p', hp', hparent⟩
          · rw [hp] at hnone
            cases hnone
          · rw [hp] at hp'
            cases hp'
            exact hparent
        rcases hm.cases_of_mem_familyVia (hm.separates hsep) hroot hid hmem hfound with
          ⟨p', hp', hself⟩ | ⟨st, hst, hparent⟩
        · rw [hself, hp] at hc
          cases hc
          refine hm.not_spared_of_parent (congrArg some hpparent) fun q hq => ?_
          cases hq
          exact hnested p hpparent
        · rw [hc] at hst
          cases hst
          exact hm.not_spared_of_proxy hp (congrArg some hpparent) (hnested p hpparent) hparent
    · obtain ⟨rank, hrank⟩ := hm.older
      have hlt := hm.rank_lt hrank h
      rw [List.mem_singleton.1 hself] at hlt
      exact absurd hlt (Nat.lt_irrefl _)
  · intro hspared
    rcases hm.cases_of_descendsFrom hroot rfl h with
      ⟨st, rfl, -, hservice⟩ | ⟨p, hp, hparent, hlisted, hc⟩
    · exact List.mem_append_left _ (List.mem_append_left _ hservice)
    · have hresolve : s.resolve m p.id = .ok (some (.proxy p)) := hp
      refine List.mem_append_left _ (List.mem_append_right _ ?_)
      refine List.mem_flatMap.2 ⟨p.id, hlisted, mem_familyVia_iff.2 ⟨p, hresolve, ?_⟩⟩
      rcases hc with rfl | hc
      · exact .inr rfl
      · rcases hm.cases_of_descendsFrom hp rfl hc with
          ⟨st, rfl, -, hservice⟩ | ⟨q, hq, hqparent, -, hc⟩
        · exact .inl hservice
        -- The cascade stops here: this ticket came from a proxy-granting ticket.
        · refine absurd ⟨q, ⟨hq, p, ?_⟩, ?_, hc⟩ hspared
          · rw [hqparent]
            exact hp
          · refine .step hq (congrArg some hqparent) hp (.child hp (congrArg some hparent))

theorem mem_cleared_iff (hm : s.Forest ids m) (hsep : s.Separates (· ∈ ids)) (ht : s.Stores m t)
    (hbody : t.session? = some body) (h : s.DescendsFrom m t.id c) :
    c.id ∈ s.cleared m t ↔ ¬s.Spared m t.id c := by
  cases t with
  | session root => exact hm.mem_family_iff hsep ht h
  | proxy p => exact hm.mem_cleared_proxy_iff ht h
  | service _ => cases hbody
  | sealed _ => cases hbody

/-- Whatever is removed was issued. -/
theorem mem_of_mem_cleared (hm : s.Forest ids m) (ht : s.Stores m t) {id : String}
    (hid : id ∈ s.cleared m t) : id ∈ ids := by
  cases t with
  | session root => exact hm.mem_of_inPlay (ht.inPlay_family hm.toWellLinked hid)
  | proxy p =>
    rcases List.mem_append.1 hid with hservice | hself
    · exact hm.listed ht rfl id (.inl hservice)
    · rw [List.mem_singleton.1 hself]
      exact hm.issued ht
  | service st => exact (List.mem_singleton.1 hid) ▸ hm.issued ht
  | sealed st => exact (List.mem_singleton.1 hid) ▸ hm.issued ht

end Forest

/-- After a removal, an identifier leads to nothing if it was removed, and else where it led. -/
theorem resolve_of_removes_keys {m' : MemoryStore} {gone : List String} {n : Nat} {id : String}
    (h : m.Removes (gone.map s.key) n m')
    (hkey : ∀ other ∈ gone, s.key other = s.key id → other = id) :
    s.resolve m' id = if id ∈ gone then .ok Option.none else s.resolve m id := by
  split
  next hid =>
    refine resolve_of_get?_eq_none ?_
    rw [h.get?_eq, if_pos (List.mem_map_of_mem hid)]
  next hid =>
    refine resolve_of_removes h fun hmem => ?_
    obtain ⟨other, hother, heq⟩ := List.mem_map.1 hmem
    exact absurd (hkey other hother heq ▸ hother) hid

end Sealing

namespace Registry

variable {r : Registry MemoryStore} {lifetimes : Lifetimes} {ids : List String} {issuer : Issuer}
  {w : World MemoryStore} {t : Ticket} {body : Session}

/-! ### Short runs of an issuer -/

/-- What is added or updated is put, if the sealing is reliable. -/
theorem exists_update (hr : r.InMemory) (hs : r.sealing.Reliable) (ht : t.isSealed = false)
    (hhold : r.sealing.CanHold t) (w : World MemoryStore) : ∃ w', r.update t w = .ok () w' := by
  obtain ⟨stored, tape, -, -, hupdate⟩ := update_run hr hs ht hhold w
  exact ⟨_, hupdate⟩

theorem exists_add (hr : r.InMemory) (hs : r.sealing.Reliable) (ht : t.isSealed = false)
    (hhold : r.sealing.CanHold t) (w : World MemoryStore) : ∃ w', r.add t w = .ok () w' := by
  obtain ⟨w₁, hupdate⟩ := exists_update hr hs ht hhold w
  exact ⟨_, Action.bind_of_ok hupdate _⟩

/-- Without encryption, whatever can be granted from a stored ticket is granted. -/
theorem exists_grantProxy (hr : r.InMemory) (hinactive : r.sealing.isActive = false)
    (hrun : r.Issues lifetimes ids issuer w) (hlength : ids.length + 1 < 2 ^ 64)
    (ht : r.sealing.Stores w.store t) (hbody : t.session? = some body) (service : Service)
    (now : Instant) (random : List UInt8) :
    ∃ child w', r.Issues lifetimes (issuer.nextId .proxy random :: ids) issuer.advance w' ∧
      child.id = issuer.nextId .proxy random ∧
      r.sealing.Grants ids w.store t body (body.addProxy child.id service) (.proxy child)
        w'.store := by
  have hs := Sealing.reliable_of_inactive hinactive
  have hsep : ∀ ids : List String, r.sealing.Separates (· ∈ ids) := fun ids =>
    Sealing.separates_of_inactive hinactive _
  have hm := hrun.forest hr hs (Nat.lt_of_succ_lt hlength) (hsep ids)
  cases hgranted : issuer.grantProxy body service now random with
  | mk child rest =>
    obtain ⟨body', issuer'⟩ := rest
    obtain ⟨w₁, hadd⟩ := exists_add (t := .proxy child) hr hs rfl
      (Sealing.canHold_of_inactive hinactive _) w
    obtain ⟨w₂, hupdate⟩ := exists_update (t := t.mapSession fun _ => body') hr hs
      ((Ticket.isSealed_mapSession _ t).trans (Ticket.isSealed_of_session? hbody))
      (Sealing.canHold_of_inactive hinactive _) w₁
    have hfound : r.find t.id w = .ok (some t) w := find_of_resolve hr ht
    have hafter := hrun.grantProxy hfound hbody hgranted hadd hupdate
    have hfresh : child.id ∉ ids := by
      obtain ⟨rfl, -⟩ := Prod.mk.inj hgranted
      exact hrun.not_mem_ids hlength .proxy random
    have hgrants := grants_of_grantProxy hr hs.opens hm.toKeyed hfound hbody hgranted hadd hupdate
      hfresh
    have hdates := Sealing.redate_of_inactive hinactive
    rw [Session.mapDates_of_fixed hdates, ProxyTicket.mapDates_of_fixed hdates] at hgrants
    obtain ⟨rfl, hrest⟩ := Prod.mk.inj hgranted
    obtain ⟨rfl, rfl⟩ := Prod.mk.inj hrest
    exact ⟨⟨.fresh _ body.authentication now issuer.lifetimes.proxy, body.id, service⟩, w₂, hafter,
      rfl, hgrants⟩

/-- A session is opened in an empty store, and a proxy-granting ticket is granted from it. -/
theorem exists_session_and_proxy (hr : r.InMemory) (hinactive : r.sealing.isActive = false)
    (lifetimes : Lifetimes) (authentication : Authentication) (service : Service) (now : Instant)
    (random : List UInt8) :
    ∃ w root p, r.Issues lifetimes [Issuer.idOf .proxy 2 random, Issuer.idOf .session 1 random]
        ⟨lifetimes, 2⟩ w ∧
      root.id = Issuer.idOf .session 1 random ∧ p.id = Issuer.idOf .proxy 2 random ∧
      p.parent = root.id ∧ r.sealing.Stores w.store (.proxy p) ∧
      r.sealing.Stores w.store (.session root) ∧
      ∀ t, r.sealing.Stores w.store t → t = .session root ∨ t = .proxy p := by
  have hs := Sealing.reliable_of_inactive hinactive
  have hsep : ∀ ids : List String, r.sealing.Separates (· ∈ ids) := fun ids =>
    Sealing.separates_of_inactive hinactive _
  have hshort : 2 < 2 ^ 64 := by decide
  have hstart : r.Issues lifetimes [] (.start lifetimes) ⟨.empty, ⟨fun _ => 0, 0⟩, .empty⟩ :=
    .start _ _
  obtain ⟨w₁, hadd⟩ := exists_add (r := r)
    (t := .session (.fresh (Issuer.idOf .session 1 random) authentication now lifetimes.session))
    hr hs rfl (Sealing.canHold_of_inactive hinactive _) ⟨.empty, ⟨fun _ => 0, 0⟩, .empty⟩
  have hopened := hstart.openSession rfl hadd
  have hputs := puts_of_add hr hs.opens rfl hadd
  rw [Ticket.mapDates_of_fixed (Sealing.redate_of_inactive hinactive)] at hputs
  have hroot := (hputs.stores_iff (Issuer.isBlank_idOf _ _ _)).2 (.inl rfl)
  have hm := hopened.forest hr hs (Nat.lt_of_succ_lt hshort) (hsep _)
  obtain ⟨p, w₂, hrun, hpid, hgrants⟩ :=
    exists_grantProxy hr hinactive hopened hshort hroot rfl service now random
  have hroot' := hgrants.stores_updated hm.accounted (hsep _)
  refine ⟨w₂, (Session.fresh _ _ _ _).addProxy p.id service, p, hrun, rfl, hpid,
    Option.some.inj hgrants.parent, hgrants.stores_child hm.accounted (hsep _), hroot',
    fun t ht => ?_⟩
  rcases hgrants.cases_of_stores ht with rfl | rfl | ⟨ht, hne⟩
  · exact .inl rfl
  · exact .inr rfl
  · rcases (hputs.stores_iff (Issuer.isBlank_idOf _ _ _)).1 ht with rfl | ⟨-, ht⟩
    · exact absurd rfl hne
    · exact absurd ht Sealing.not_stores_empty

/-- A session, a proxy-granting ticket from it, and a proxy-granting ticket from that one. -/
theorem exists_nested (hr : r.InMemory) (hinactive : r.sealing.isActive = false)
    (lifetimes : Lifetimes) (authentication : Authentication) (service : Service) (now : Instant)
    (random : List UInt8) :
    ∃ w root q, r.Issues lifetimes
        [Issuer.idOf .proxy 3 random, Issuer.idOf .proxy 2 random, Issuer.idOf .session 1 random]
        ⟨lifetimes, 3⟩ w ∧
      r.sealing.Stores w.store (.session root) ∧ r.sealing.Nested w.store q ∧
      r.sealing.DescendsFrom w.store root.id (.proxy q) := by
  have hs := Sealing.reliable_of_inactive hinactive
  have hsep : ∀ ids : List String, r.sealing.Separates (· ∈ ids) := fun ids =>
    Sealing.separates_of_inactive hinactive _
  have hshort : 3 < 2 ^ 64 := by decide
  obtain ⟨w, root, p, hrun, hrootid, hpid, hparent, hp, hroot, -⟩ :=
    exists_session_and_proxy hr hinactive lifetimes authentication service now random
  have hm := hrun.forest hr hs (Nat.lt_of_succ_lt hshort) (hsep _)
  obtain ⟨q, w', hrun', -, hgrants⟩ :=
    exists_grantProxy hr hinactive hrun hshort hp rfl service now random
  have hne : root.id ≠ p.id := by
    rw [hrootid, hpid]
    intro hid
    have hkinds := (Issuer.idOf_inj hid).1
    cases hkinds
  have hq := hgrants.stores_child hm.accounted (hsep _)
  have hp' := hgrants.stores_updated hm.accounted (hsep _)
  have hfound : r.sealing.resolve w'.store q.parent =
      .ok (some (.proxy { p with body := p.body.addProxy q.id service })) := by
    rw [Option.some.inj hgrants.parent]
    exact hp'
  have hroot' := hgrants.stores_of_ne hm.accounted (hsep _) hroot hne
  refine ⟨w', root, q, hrun', hroot', ⟨hq, _, hfound⟩, ?_⟩
  exact .step hq rfl hfound (.child hp' (congrArg some hparent))

/-! ### Logging out -/

/-- In a forest, what descends from a ticket is gone after the deletion if it is removed with the
ticket, and otherwise is found as before. -/
theorem delete_of_forest (hr : r.InMemory) (hs : r.sealing.Reliable)
    (hm : r.sealing.Forest ids w.store) (hsep : r.sealing.Separates (· ∈ ids))
    (ht : r.sealing.Stores w.store t) (hbody : t.session? = some body) :
    ∃ n w', r.delete t.id w = .ok n w' ∧ ∀ c, r.sealing.DescendsFrom w.store t.id c →
      r.sealing.resolve w'.store c.id =
        if c.id ∈ r.sealing.cleared w.store t then .ok none else .ok (some c) := by
  have hkey : ∀ c, r.sealing.Stores w.store c → ∀ other ∈ r.sealing.cleared w.store t,
      r.sealing.key other = r.sealing.key c.id → other = c.id := by
    intro c hc other hother
    exact hsep _ _ (hm.mem_of_mem_cleared ht hother) (hm.issued hc)
  cases t with
  | session root =>
    obtain ⟨n, m, tape, hrun, hremoves⟩ :=
      deleteSession_run hr hs hm.toWellLinked (hm.separates hsep) ht
    refine ⟨n, _, delete_of_resolve hr ht hrun, fun c hc => ?_⟩
    have hstores : r.sealing.resolve w.store c.id = .ok (some c) := hc.stores
    rw [← hstores]
    exact Sealing.resolve_of_removes_keys hremoves (hkey c hc.stores)
  | proxy p =>
    obtain ⟨u, body', hu, hid, hbody', -⟩ := hm.resolve_parent ht rfl
    have hparent : p.parent ∈ ids := hid ▸ hm.issued (hm.stores_of_resolve hu).1
    obtain ⟨n, m, stored, tape, hrun, -, hremoves⟩ :=
      deleteProxy_run hr hs hu hbody' (congrArg _ hid) (hm.canHold (hm.stores_of_resolve hu).1)
        (hm.key_not_mem_services ht rfl hu hbody')
    refine ⟨n, _, delete_of_resolve hr ht hrun, fun c hc => ?_⟩
    have hstores : r.sealing.resolve w.store c.id = .ok (some c) := hc.stores
    -- The ticket that is put again is older than whatever descends from the deleted one.
    have hne : r.sealing.key c.id ≠ r.sealing.key p.parent := by
      intro heq
      obtain ⟨rank, hrank⟩ := hm.older
      have hlt := hm.rank_lt hrank hc
      have hparentlt := hrank ht rfl
      rw [hsep _ _ (hm.issued hc.stores) hparent heq] at hlt
      exact Nat.lt_irrefl _ (Nat.lt_trans hlt hparentlt)
    have hput := Sealing.resolve_put_of_ne (m := w.store) (t := stored) hne
    rw [← hstores, ← hput]
    exact Sealing.resolve_of_removes_keys hremoves (hkey c hc.stores)
  | service _ => cases hbody
  | sealed _ => cases hbody

/-- In a store that an issuer filled, deleting a session or a proxy-granting ticket succeeds. Of the
tickets that descend from it, those are left that are or descend from a proxy-granting ticket that
was granted by a proxy-granting ticket. So nothing is left exactly if there is no such ticket. -/
theorem delete_spares_nested (hr : r.InMemory) (hs : r.sealing.Reliable)
    (hrun : r.Issues lifetimes ids issuer w) (hlength : ids.length < 2 ^ 64)
    (hfree : r.sealing.isActive = true → Sha512.CollisionFree (· ∈ ids))
    (ht : r.sealing.Stores w.store t) (hbody : t.session? = some body) :
    ∃ n w', r.delete t.id w = .ok n w' ∧
      (∀ c, r.sealing.DescendsFrom w.store t.id c →
        r.sealing.Spared w.store t.id c ∧ r.sealing.resolve w'.store c.id = .ok (some c) ∨
        ¬r.sealing.Spared w.store t.id c ∧ r.sealing.resolve w'.store c.id = .ok none) ∧
      ((∀ c, r.sealing.DescendsFrom w.store t.id c → r.sealing.resolve w'.store c.id = .ok none) ↔
        ∀ q, r.sealing.Nested w.store q → ¬r.sealing.DescendsFrom w.store t.id (.proxy q)) := by
  have hsep := Sealing.separates_of_collisionFree hfree
  have hm := hrun.forest hr hs hlength hsep
  obtain ⟨n, w', hdelete, hafter⟩ := delete_of_forest hr hs hm hsep ht hbody
  have hcases : ∀ c, r.sealing.DescendsFrom w.store t.id c →
      r.sealing.Spared w.store t.id c ∧ r.sealing.resolve w'.store c.id = .ok (some c) ∨
      ¬r.sealing.Spared w.store t.id c ∧ r.sealing.resolve w'.store c.id = .ok none := by
    intro c hc
    have hmem := hm.mem_cleared_iff hsep ht hbody hc
    rw [hafter c hc]
    by_cases hspared : r.sealing.Spared w.store t.id c
    · exact .inl ⟨hspared, if_neg fun h => hmem.1 h hspared⟩
    · exact .inr ⟨hspared, if_pos (hmem.2 hspared)⟩
  -- A nested ticket is spared itself, and nothing is spared without one.
  refine ⟨n, w', hdelete, hcases, fun hgone q hq hbelow => ?_, fun hnested c hc => ?_⟩
  · rcases hcases _ hbelow with ⟨-, hfound⟩ | ⟨hspared, -⟩
    · rw [hgone _ hbelow] at hfound
      cases hfound
    · exact hspared ⟨q, hq, hbelow, .inl rfl⟩
  · rcases hcases c hc with ⟨⟨q, hq, hbelow, -⟩, -⟩ | ⟨-, hnone⟩
    · exact absurd hbelow (hnested q hq)
    · exact hnone

/-- Logging out removes a session and its proxy-granting ticket, which is not nested. -/
theorem delete_spares_nested_oneProxy :
    let random := List.replicate Issuer.randomLength 0
    ∃ (w : World MemoryStore) (root : Session) (p : ProxyTicket), Issues ⟨.memory, .none⟩ .usual
        [Issuer.idOf .proxy 2 random, Issuer.idOf .session 1 random] ⟨.usual, 2⟩ w ∧
      Sealing.none.DescendsFrom w.store root.id (.proxy p) ∧
      ∃ n w', delete ⟨.memory, .none⟩ root.id w = .ok n w' ∧
        ∀ c, Sealing.none.DescendsFrom w.store root.id c →
          Sealing.none.resolve w'.store c.id = .ok none := by
  intro random
  have hinactive : Sealing.none.isActive = false := rfl
  let now : Instant := ⟨⟨2024, 1, 1, by decide⟩, 0, 0, by decide, by decide⟩
  obtain ⟨w, root, p, hrun, hrootid, hpid, hparent, hp, hroot, hall⟩ :=
    exists_session_and_proxy (r := ⟨.memory, .none⟩) (inMemory_memory _) hinactive .usual
      ⟨⟨"alice", .empty⟩, [], .empty, .empty, .empty, now⟩ ⟨"app"⟩ now random
  obtain ⟨n, w', hdelete, -, hcomplete⟩ :=
    delete_spares_nested (inMemory_memory _) (Sealing.reliable_of_inactive hinactive) hrun
      (by decide) (fun hactive => by cases hactive) hroot rfl
  refine ⟨w, root, p, hrun, .child hp (congrArg some hparent), n, w', hdelete, hcomplete.2 ?_⟩
  rintro q ⟨hq, p', hp'⟩
  -- The only proxy-granting ticket came from the session.
  rcases hall _ hq with heq | heq
  · cases heq
  · cases heq
    rw [hparent] at hp'
    have hkinds := hp'.symm.trans hroot
    cases hkinds

/-- A logout leaves behind a proxy-granting ticket that was granted by a proxy-granting ticket. -/
theorem delete_leaves_nested :
    let random := List.replicate Issuer.randomLength 0
    ∃ (w : World MemoryStore) (root : Session) (q : ProxyTicket), Issues ⟨.memory, .none⟩ .usual
        [Issuer.idOf .proxy 3 random, Issuer.idOf .proxy 2 random, Issuer.idOf .session 1 random]
        ⟨.usual, 3⟩ w ∧
      Sealing.none.Stores w.store (.session root) ∧
      Sealing.none.DescendsFrom w.store root.id (.proxy q) ∧
      ∃ n w', delete ⟨.memory, .none⟩ root.id w = .ok n w' ∧
        Sealing.none.resolve w'.store q.id = .ok (some (.proxy q)) := by
  intro random
  have hinactive : Sealing.none.isActive = false := rfl
  let now : Instant := ⟨⟨2024, 1, 1, by decide⟩, 0, 0, by decide, by decide⟩
  have hs := Sealing.reliable_of_inactive hinactive
  obtain ⟨w, root, q, hrun, hroot, hnested, hbelow⟩ :=
    exists_nested (r := ⟨.memory, .none⟩) (inMemory_memory _) hinactive .usual
      ⟨⟨"alice", .empty⟩, [], .empty, .empty, .empty, now⟩ ⟨"app"⟩ now random
  have hsep : ∀ ids : List String, Sealing.none.Separates (· ∈ ids) := fun ids =>
    Sealing.separates_of_inactive hinactive _
  have hm := hrun.forest (inMemory_memory _) hs (by decide) (hsep _)
  obtain ⟨n, w', hdelete, hafter⟩ := delete_of_forest (inMemory_memory _) hs hm (hsep _) hroot rfl
  refine ⟨w, root, q, hrun, hroot, hbelow, n, w', hdelete, ?_⟩
  have hcleared := hm.mem_cleared_iff (hsep _) hroot rfl hbelow
  rw [show Sealing.none.resolve w'.store q.id = _ from hafter _ hbelow, if_neg]
  exact fun hmem => hcleared.1 hmem ⟨q, hnested, hbelow, .inl rfl⟩

end Registry

end SignOn
