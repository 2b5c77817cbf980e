/-!
# Kinds of tickets

A session is opened by a ticket-granting ticket. From it come service tickets, each for one service,
and proxy-granting tickets, which are sessions of their own that a service may use. A sealed ticket
stands for any of them at rest.

## Main definitions

* `TicketKind` - the four kinds
* `TicketKind.tag` - the start of identifiers of a kind
* `TicketKind.name` - the conventional name of a kind
* `TicketKind.answers` - whether a ticket of one kind answers a look-up for another
-/

namespace SignOn

/-- The kinds of tickets. -/
inductive TicketKind where
  | session
  | service
  | proxy
  | sealed
  deriving DecidableEq, Repr

namespace TicketKind

/-- All kinds. -/
def all : List TicketKind := [session, service, proxy, sealed]

/-- How identifiers of a kind start. -/
def tag : TicketKind → String
  | session => "TGT"
  | service => "ST"
  | proxy => "PGT"
  | sealed => "ENC"

/-- The conventional name of a kind. -/
def name : TicketKind → String
  | session => "TicketGrantingTicket"
  | service => "ServiceTicket"
  | proxy => "ProxyGrantingTicket"
  | sealed => "EncodedTicket"

/-- A ticket answers a look-up for its own kind; a proxy-granting ticket also answers one for a
session. -/
def answers (actual expected : TicketKind) : Bool :=
  actual = expected ∨ actual = proxy ∧ expected = session

end TicketKind

end SignOn
