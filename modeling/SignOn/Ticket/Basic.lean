import SignOn.Auth.Authentication
import SignOn.Service
import SignOn.Ticket.Expiration
import SignOn.Ticket.Kind

/-!
# Tickets

Tickets form a tree: a session lists the service tickets and the proxy-granting tickets that came
from it, and each of them names the session it came from. Links are identifiers; no ticket holds
another one.

## Main definitions

* `Session` - the body of a ticket-granting ticket
* `ServiceTicket`, `ProxyTicket`, `SealedTicket` - the other kinds; a proxy-granting ticket has a
  session as its body
* `Ticket` - a ticket of any kind
* `Session.grant`, `Session.addProxy`, `Session.removeProxy` - changing the links of a session
-/

namespace SignOn

/-- The body of a ticket-granting ticket: who logged in, and what was issued since. -/
structure Session where
  id : String
  created : Instant
  policy : ExpirationPolicy
  authentication : Authentication
  services : TextMap Service
  proxies : TextMap Service
  deriving DecidableEq

namespace Session

/-- A session from which nothing was issued yet. -/
def fresh (id : String) (authentication : Authentication) (created : Instant)
    (policy : ExpirationPolicy) : Session :=
  ⟨id, created, policy, authentication, .empty, .empty⟩

/-- Lists a service ticket. -/
def grant (s : Session) (id : String) (service : Service) : Session :=
  { s with services := s.services.insert id service }

/-- Lists a proxy-granting ticket. -/
def addProxy (s : Session) (id : String) (service : Service) : Session :=
  { s with proxies := s.proxies.insert id service }

/-- Strikes a proxy-granting ticket off the list. -/
def removeProxy (s : Session) (id : String) : Session := { s with proxies := s.proxies.erase id }

/-- Strikes all proxy-granting tickets off the list. -/
def clearProxies (s : Session) : Session := { s with proxies := .empty }

/-- Whether a proxy-granting ticket is listed. -/
def hasProxy (s : Session) (id : String) : Bool := s.proxies.contains id

/-- Whether the session is expired. -/
def isExpired (s : Session) (now : Instant) : Bool := s.policy.isExpired s.created now

end Session

/-- A ticket for one service. -/
structure ServiceTicket where
  id : String
  created : Instant
  policy : ExpirationPolicy
  /-- The session that the ticket came from. -/
  parent : String
  service : Service
  fromNewLogin : Bool
  deriving DecidableEq

/-- A session that a service uses in the name of the user. -/
structure ProxyTicket where
  body : Session
  /-- The session that the ticket came from. -/
  parent : String
  /-- The service that acts as a proxy. -/
  proxiedBy : Service
  deriving DecidableEq

/-- The identifier of a proxy-granting ticket is that of its body. -/
def ProxyTicket.id (t : ProxyTicket) : String := t.body.id

/-- What stands for a ticket at rest: its storage key and the encrypted ticket. -/
structure SealedTicket where
  id : String
  payload : List UInt8
  deriving DecidableEq

/-- The text that a sealed ticket is shown as, without its payload. -/
def SealedTicket.diagnosis (t : SealedTicket) : String :=
  Text.record "EncodedTicket" [("id", Text.quote t.id), ("encoded_len", toString t.payload.length)]

/-- A ticket of any kind. -/
inductive Ticket where
  | session (t : Session)
  | service (t : ServiceTicket)
  | proxy (t : ProxyTicket)
  | sealed (t : SealedTicket)
  deriving DecidableEq

namespace Ticket

/-- The identifier of a ticket. -/
def id : Ticket → String
  | session t => t.id
  | service t => t.id
  | proxy t => t.id
  | sealed t => t.id

/-- The kind of a ticket. -/
def kind : Ticket → TicketKind
  | session _ => .session
  | service _ => .service
  | proxy _ => .proxy
  | sealed _ => .sealed

/-- When a ticket was created; a sealed ticket does not tell. -/
def created? : Ticket → Option Instant
  | session t => some t.created
  | service t => some t.created
  | proxy t => some t.body.created
  | sealed _ => none

/-- Whether a ticket is expired; a sealed ticket never is. -/
def isExpired (t : Ticket) (now : Instant) : Bool :=
  match t with
  | session t => t.isExpired now
  | service t => t.policy.isExpired t.created now
  | proxy t => t.body.isExpired now
  | sealed _ => false

/-- The session of a ticket-granting or proxy-granting ticket. -/
def session? : Ticket → Option Session
  | session t => some t
  | proxy t => some t.body
  | service _ | sealed _ => none

/-- The ticket with its session changed; a ticket without a session stays as it is. -/
def mapSession (change : Session → Session) : Ticket → Ticket
  | session t => session (change t)
  | proxy t => proxy { t with body := change t.body }
  | t => t

@[simp] theorem session?_mapSession (change : Session → Session) (t : Ticket) :
    (t.mapSession change).session? = t.session?.map change := by
  cases t <;> rfl

/-- The ticket, if it is a service ticket. -/
def service? : Ticket → Option ServiceTicket
  | service t => some t
  | _ => none

/-- The ticket, if it is a proxy-granting ticket. -/
def proxy? : Ticket → Option ProxyTicket
  | proxy t => some t
  | _ => none

/-- Whether the ticket is sealed. -/
def isSealed : Ticket → Bool
  | sealed _ => true
  | _ => false

end Ticket

end SignOn
