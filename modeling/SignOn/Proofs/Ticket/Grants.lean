import SignOn.Proofs.Store.Memory
import SignOn.Proofs.Ticket.Identifiers

/-!
# Grants of an issuer

An issuer opens sessions, and grants service tickets and proxy-granting tickets from what it issued:
from sessions and from the bodies of proxy-granting tickets, as they are after earlier grants or as
they were before them. No identifier is issued twice, whatever random bytes are drawn, also if they
are always the same. As whatever a body lists was issued before, a grant lists its ticket under an
identifier that is new there, and changes nothing else.

## Main definitions

* `Issuer.Issue` - one ticket that was issued, and what it was granted from
* `Issuer.Issue.Exact` - the grant adds one entry to one list, and changes nothing else
* `Issuer.History` - what an issuer did since it was started
* `Issuer.Orderly` - the identifiers that were issued are numbered, and bodies list no others

## Main results

* `Issuer.Orderly.issue` - one ticket more
* `Issuer.History.orderly` - whatever an issuer did
* `Issuer.nodup_and_exact_of_history` - no identifier repeats, and every grant is exact
-/

namespace SignOn

/-- A map has one entry more than another one. -/
def TextMap.Adds {α : Type} (m : TextMap α) (key : String) (a : α) (m' : TextMap α) : Prop :=
  key ∉ m.keys ∧ ∀ other, m'.get? other = if other = key then some a else m.get? other

theorem TextMap.adds_insert {α : Type} {m : TextMap α} {key : String} (h : key ∉ m.keys) (a : α) :
    m.Adds key a (m.insert key a) :=
  ⟨h, fun other => get?_insert m key other a⟩

namespace Issuer

/-- One ticket that was issued. A granted ticket comes with the body that it was granted from, and
with that body as it is afterwards. -/
inductive Issue where
  | session (opened : Session)
  | service (parent : Session) (target : Service) (child : ServiceTicket) (updated : Session)
  | proxy (parent : Session) (target : Service) (child : ProxyTicket) (updated : Session)

namespace Issue

/-- The ticket that was issued. -/
def ticket : Issue → Ticket
  | session opened => .session opened
  | service _ _ child _ => .service child
  | proxy _ _ child _ => .proxy child

/-- The bodies that come out of it: the body that was changed, and that of the new ticket. -/
def bodies : Issue → List Session
  | session opened => [opened]
  | service _ _ _ updated => [updated]
  | proxy _ _ child updated => [child.body, updated]

/-- A new session lists nothing. A granted ticket names its parent and its service. It is listed
under its own identifier, which the parent did not list as anything before, and with its service;
nothing else of the parent changes. -/
def Exact : Issue → Prop
  | session opened => opened.services = .empty ∧ opened.proxies = .empty
  | service parent target child updated =>
    child.parent = parent.id ∧ child.service = target ∧
    parent.services.Adds child.id target updated.services ∧ child.id ∉ parent.proxies.keys ∧
    updated = { parent with services := updated.services }
  | proxy parent target child updated =>
    child.parent = parent.id ∧ child.proxiedBy = target ∧
    parent.proxies.Adds child.id target updated.proxies ∧ child.id ∉ parent.services.keys ∧
    updated = { parent with proxies := updated.proxies } ∧
    child.body.services = .empty ∧ child.body.proxies = .empty

end Issue

/-- What an issuer did since it was started, the last first. Tickets are granted from any body that
came out of it, also from one that was changed since. -/
inductive History (lifetimes : Lifetimes) : List Issue → Issuer → Prop where
  | start : History lifetimes [] (.start lifetimes)
  | openSession {issues : List Issue} {issuer issuer' : Issuer} {opened : Session}
      {authentication : Authentication} {now : Instant} {random : List UInt8}
      (before : History lifetimes issues issuer)
      (opening : issuer.openSession authentication now random = (opened, issuer')) :
      History lifetimes (.session opened :: issues) issuer'
  | grantService {issues : List Issue} {issuer issuer' : Issuer} {parent updated : Session}
      {child : ServiceTicket} {service : Service} {fromNewLogin : Bool} {now : Instant}
      {random : List UInt8} (before : History lifetimes issues issuer)
      (held : parent ∈ issues.flatMap Issue.bodies)
      (granted : issuer.grantService parent service fromNewLogin now random =
        (child, updated, issuer')) :
      History lifetimes (.service parent service child updated :: issues) issuer'
  | grantProxy {issues : List Issue} {issuer issuer' : Issuer} {parent updated : Session}
      {child : ProxyTicket} {service : Service} {now : Instant} {random : List UInt8}
      (before : History lifetimes issues issuer) (held : parent ∈ issues.flatMap Issue.bodies)
      (granted : issuer.grantProxy parent service now random = (child, updated, issuer')) :
      History lifetimes (.proxy parent service child updated :: issues) issuer'

variable {issuer : Issuer} {issues : List Issue} {lifetimes : Lifetimes}

/-- A body lists only what was issued. -/
def ListsOnly (ids : List String) (body : Session) : Prop :=
  ∀ id, id ∈ body.services.keys ∨ id ∈ body.proxies.keys → id ∈ ids

theorem ListsOnly.mono {ids more : List String} {body : Session} (h : ListsOnly ids body)
    (hmore : ids ⊆ more) : ListsOnly more body :=
  fun id hid => hmore (h id hid)

/-- What an issuer did is in order. Its identifiers are numbered, none of them repeats, each starts
with the tag of its kind, the bodies list no others, and every grant is exact. -/
structure Orderly (issuer : Issuer) (issues : List Issue) : Prop where
  numbered : issuer.Numbered (issues.map (·.ticket.id))
  nodup : (issues.map (·.ticket.id)).Nodup
  tagged : ∀ issue ∈ issues, ∃ rest, issue.ticket.id = issue.ticket.kind.tag ++ "-" ++ rest
  listed : ∀ body ∈ issues.flatMap Issue.bodies, ListsOnly (issues.map (·.ticket.id)) body
  exact : ∀ issue ∈ issues, issue.Exact

/-- One ticket more. It has to be shown only for a new identifier that its bodies list nothing else
that is new, and that it is exact. -/
theorem Orderly.issue (h : issuer.Orderly issues) (hlength : issues.length + 1 < 2 ^ 64)
    {issue : Issue} {random : List UInt8}
    (hid : issue.ticket.id = issuer.nextId issue.ticket.kind random)
    (hbodies : ∀ body ∈ issue.bodies,
      ListsOnly (issue.ticket.id :: issues.map (·.ticket.id)) body)
    (hexact : issue.ticket.id ∉ issues.map (·.ticket.id) → issue.Exact) :
    issuer.advance.Orderly (issue :: issues) := by
  have hlength' : (issues.map (·.ticket.id)).length + 1 < 2 ^ 64 := by
    rwa [List.length_map]
  have hfresh : issue.ticket.id ∉ issues.map (·.ticket.id) := by
    rw [hid]
    exact h.numbered.nextId_not_mem hlength' _ random
  refine ⟨?_, ?_, ?_, ?_, ?_⟩
  · rw [List.map_cons, hid]
    exact h.numbered.next _ random hlength'
  · exact List.nodup_cons.2 ⟨hfresh, h.nodup⟩
  · refine List.forall_mem_cons.2 ⟨?_, h.tagged⟩
    rw [hid, nextId, idOf]
    simp only [String.append_assoc]
    exact ⟨_, rfl⟩
  · intro body hbody
    rw [List.flatMap_cons] at hbody
    rcases List.mem_append.1 hbody with hnew | hold
    · exact hbodies body hnew
    · exact (h.listed body hold).mono (List.subset_cons_self _ _)
  · exact List.forall_mem_cons.2 ⟨hexact hfresh, h.exact⟩

/-- As long as the numbers do not start over, all is in order. -/
theorem History.orderly (h : History lifetimes issues issuer) (hlength : issues.length < 2 ^ 64) :
    issuer.Orderly issues := by
  induction h with
  | start =>
    exact ⟨⟨rfl, List.forall_mem_nil _⟩, .nil, List.forall_mem_nil _, List.forall_mem_nil _,
      List.forall_mem_nil _⟩
  | openSession before opening ih =>
    obtain ⟨rfl, rfl⟩ := Prod.mk.inj opening
    refine (ih (Nat.lt_of_succ_lt hlength)).issue hlength rfl ?_ fun _ => ⟨rfl, rfl⟩
    intro body hbody id hid
    obtain rfl := List.mem_singleton.1 hbody
    rcases hid with hid | hid <;> cases hid
  | @grantService issues issuer _ parent _ _ service _ _ random before held granted ih =>
    have hbefore := ih (Nat.lt_of_succ_lt hlength)
    have hparent := hbefore.listed parent held
    obtain ⟨rfl, hrest⟩ := Prod.mk.inj granted
    obtain ⟨rfl, rfl⟩ := Prod.mk.inj hrest
    refine hbefore.issue hlength rfl ?_ fun hfresh => ?_
    · intro body hbody id hid
      obtain rfl := List.mem_singleton.1 hbody
      rcases hid with hid | hid
      · rcases (TextMap.mem_keys_insert _ _ _ _).1 hid with rfl | hid
        · exact List.mem_cons_self
        · exact List.mem_cons_of_mem _ (hparent id (.inl hid))
      · exact List.mem_cons_of_mem _ (hparent id (.inr hid))
    · exact ⟨rfl, rfl, TextMap.adds_insert (fun hmem => hfresh (hparent _ (.inl hmem))) service,
        fun hmem => hfresh (hparent _ (.inr hmem)), rfl⟩
  | @grantProxy issues issuer _ parent _ _ service _ random before held granted ih =>
    have hbefore := ih (Nat.lt_of_succ_lt hlength)
    have hparent := hbefore.listed parent held
    obtain ⟨rfl, hrest⟩ := Prod.mk.inj granted
    obtain ⟨rfl, rfl⟩ := Prod.mk.inj hrest
    refine hbefore.issue hlength rfl ?_ fun hfresh => ?_
    · intro body hbody id hid
      rcases List.mem_cons.1 hbody with rfl | hbody
      · -- The body of the new ticket lists nothing.
        rcases hid with hid | hid <;> cases hid
      obtain rfl := List.mem_singleton.1 hbody
      rcases hid with hid | hid
      · exact List.mem_cons_of_mem _ (hparent id (.inl hid))
      · rcases (TextMap.mem_keys_insert _ _ _ _).1 hid with rfl | hid
        · exact List.mem_cons_self
        · exact List.mem_cons_of_mem _ (hparent id (.inr hid))
    · exact ⟨rfl, rfl, TextMap.adds_insert (fun hmem => hfresh (hparent _ (.inr hmem))) service,
        fun hmem => hfresh (hparent _ (.inl hmem)), rfl, rfl, rfl⟩

/-- Whatever an issuer did since it was started, and whatever random bytes were drawn: as long as
the numbers do not start over, the identifiers of all tickets of all kinds are different, and each
starts with the tag of its kind. Every grant names its parent, and adds exactly one entry to exactly
one list of its parent, under the identifier of the granted ticket and with its service. -/
theorem nodup_and_exact_of_history (h : History lifetimes issues issuer)
    (hlength : issues.length < 2 ^ 64) :
    (issues.map (·.ticket.id)).Nodup ∧
      (∀ issue ∈ issues, ∃ rest, issue.ticket.id = issue.ticket.kind.tag ++ "-" ++ rest) ∧
      ∀ issue ∈ issues, issue.Exact :=
  have horderly := h.orderly hlength
  ⟨horderly.nodup, horderly.tagged, horderly.exact⟩

/-- A session, a service ticket and a proxy-granting ticket from it, the latter from the session as
it was before the service ticket, and a service ticket from the proxy-granting ticket, always with
the same random bytes. -/
theorem nodup_and_exact_of_history_sameBytes :
    let now : Instant := ⟨⟨2024, 1, 1, by decide⟩, 0, 0, by decide, by decide⟩
    let login : Authentication := ⟨⟨"alice", .empty⟩, [], .empty, .empty, .empty, now⟩
    let bytes : List UInt8 := List.replicate randomLength 0
    let opened := (start .usual).openSession login now bytes
    let service := opened.2.grantService opened.1 ⟨"app"⟩ false now bytes
    let proxy := service.2.2.grantProxy opened.1 ⟨"p"⟩ now bytes
    let proxied := proxy.2.2.grantService proxy.1.body ⟨"app"⟩ false now bytes
    [proxied.1.id, proxy.1.id, service.1.id, opened.1.id].Nodup ∧
      opened.1.proxies.Adds proxy.1.id ⟨"p"⟩ proxy.2.1.proxies ∧
      proxied.1.parent = proxy.1.id := by
  intro now login bytes opened service proxy proxied
  have hopened : History .usual [.session opened.1] opened.2 := .openSession .start rfl
  have hservice := hopened.grantService (show opened.1 ∈ _ from List.mem_cons_self)
    (show _ = (service.1, service.2.1, service.2.2) from rfl)
  have hproxy := hservice.grantProxy
    (show opened.1 ∈ _ from List.mem_cons_of_mem _ List.mem_cons_self)
    (show _ = (proxy.1, proxy.2.1, proxy.2.2) from rfl)
  have hproxied := hproxy.grantService (show proxy.1.body ∈ _ from List.mem_cons_self)
    (show _ = (proxied.1, proxied.2.1, proxied.2.2) from rfl)
  obtain ⟨hnodup, -, hexact⟩ := nodup_and_exact_of_history hproxied (by decide)
  have hproxy := hexact _ (List.mem_cons_of_mem _ List.mem_cons_self)
  exact ⟨hnodup, hproxy.2.2.1, (hexact _ List.mem_cons_self).1⟩

end Issuer

end SignOn
