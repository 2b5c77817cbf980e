import SignOn.Bytes.Base64
import SignOn.Ticket.Basic

/-!
# Issuing tickets

An issuer makes tickets with fresh identifiers: the tag of the kind, a number that counts up, and
random bytes in base64. The number keeps identifiers of one issuer apart, the bytes make them
unguessable. Issuing from a session lists the new ticket there; storing both is up to the caller.

## Main definitions

* `Lifetimes` - the expiration policies of new tickets
* `Issuer` - lifetimes and the number issued last
* `Issuer.openSession`, `Issuer.grantService`, `Issuer.grantProxy` - the three tickets that can be
  issued
-/

namespace SignOn

/-- The expiration policies of new tickets. -/
structure Lifetimes where
  session : ExpirationPolicy
  service : ExpirationPolicy
  proxy : ExpirationPolicy
  deriving DecidableEq, Repr

namespace Lifetimes

/-- Eight hours for a session, ten seconds for a service ticket, two hours for a proxy-granting
ticket. -/
def usual : Lifetimes where
  session := .timeout (.ofSeconds (8 * 3600))
  service := .timeout (.ofSeconds 10)
  proxy := .timeout (.ofSeconds (2 * 3600))

/-- The text that lifetimes are shown as. -/
def diagnosis (l : Lifetimes) : String :=
  Text.record "TicketExpirationConfig"
    [("ticket_granting_ticket", l.session.diagnosis), ("service_ticket", l.service.diagnosis),
      ("proxy_granting_ticket", l.proxy.diagnosis)]

end Lifetimes

/-- Makes tickets with fresh identifiers. -/
structure Issuer where
  lifetimes : Lifetimes
  /-- The number in the identifier issued last. -/
  sequence : UInt64
  deriving DecidableEq, Repr

namespace Issuer

/-- The issuer that has issued nothing yet. -/
def start (lifetimes : Lifetimes) : Issuer := ⟨lifetimes, 0⟩

/-- How many random bytes an identifier holds. -/
def randomLength : Nat := 32

/-- The identifier of a kind with a number and random bytes. -/
def idOf (kind : TicketKind) (number : UInt64) (random : List UInt8) : String :=
  kind.tag ++ "-" ++ toString number.toNat ++ "-" ++ Base64.ascii (Base64.encodeUrl random)

/-- The issuer after the next identifier. -/
def advance (issuer : Issuer) : Issuer := { issuer with sequence := issuer.sequence + 1 }

/-- The next identifier of a kind. -/
def nextId (issuer : Issuer) (kind : TicketKind) (random : List UInt8) : String :=
  idOf kind (issuer.sequence + 1) random

/-- Opens a session for an authentication. -/
def openSession (issuer : Issuer) (authentication : Authentication) (now : Instant)
    (random : List UInt8) : Session × Issuer :=
  (.fresh (issuer.nextId .session random) authentication now issuer.lifetimes.session,
    issuer.advance)

/-- Issues a service ticket from a session; gives the ticket, the session that lists it, and the
issuer. -/
def grantService (issuer : Issuer) (parent : Session) (service : Service) (fromNewLogin : Bool)
    (now : Instant) (random : List UInt8) : ServiceTicket × Session × Issuer :=
  let id := issuer.nextId .service random
  (⟨id, now, issuer.lifetimes.service, parent.id, service, fromNewLogin⟩, parent.grant id service,
    issuer.advance)

/-- Issues a proxy-granting ticket from a session; its body has the authentication of the session.
Gives the ticket, the session that lists it, and the issuer. -/
def grantProxy (issuer : Issuer) (parent : Session) (service : Service) (now : Instant)
    (random : List UInt8) : ProxyTicket × Session × Issuer :=
  let id := issuer.nextId .proxy random
  (⟨.fresh id parent.authentication now issuer.lifetimes.proxy, parent.id, service⟩,
    parent.addProxy id service, issuer.advance)

/-- The text that an issuer is shown as. -/
def diagnosis (issuer : Issuer) : String :=
  Text.partialRecord "DefaultTicketFactory"
    [("expiration", issuer.lifetimes.diagnosis), ("sequence", toString issuer.sequence.toNat)]

end Issuer

end SignOn
