import SignOn.Ticket.Basic
import SignOn.Wire.Auth

/-!
# The stored format of tickets

## Main definitions

* `Layout.session`, `Layout.serviceTicket`, `Layout.proxyTicket`, `Layout.sealedTicket` - tickets of
  one kind
* `Layout.ticket` - tickets of any kind
-/

namespace SignOn.Layout

/-- The kind of a ticket: its number. -/
def ticketKind : Layout TicketKind where
  write
    | .session => littleEndian 4 0
    | .service => littleEndian 4 1
    | .proxy => littleEndian 4 2
    | .sealed => littleEndian 4 3
  read bytes :=
    match readVariant 4 bytes with
    | .error fault => .error fault
    | .ok (0, rest) => .ok (.session, rest)
    | .ok (1, rest) => .ok (.service, rest)
    | .ok (2, rest) => .ok (.proxy, rest)
    | .ok (_, rest) => .ok (.sealed, rest)
  fits _ := true

/-- A number of seconds, in two's complement. -/
def seconds : Layout Int64 := word.iso UInt64.toInt64 Int64.toUInt64

/-- An expiration policy: never is zero, always is one, a timeout is two followed by its seconds. -/
def expirationPolicy : Layout ExpirationPolicy where
  write
    | .never => littleEndian 4 0
    | .always => littleEndian 4 1
    | .after lifetime => littleEndian 4 2 ++ seconds.write lifetime
  read bytes :=
    match readVariant 3 bytes with
    | .error fault => .error fault
    | .ok (0, rest) => .ok (.never, rest)
    | .ok (1, rest) => .ok (.always, rest)
    | .ok (_, rest) => (seconds.read rest).map fun (lifetime, rest) => (.after lifetime, rest)
  fits _ := true

/-- A session: identifier, creation, policy, authentication, and what was issued from it. -/
def session : Layout Session :=
  (pair text (pair instant (pair expirationPolicy (pair authentication
      (pair (textMap service) (textMap service)))))).iso
    (fun (id, created, policy, authentication, services, proxies) =>
      ⟨id, created, policy, authentication, services, proxies⟩)
    fun s => (s.id, s.created, s.policy, s.authentication, s.services, s.proxies)

/-- A service ticket: identifier, creation, policy, parent, service, and if the login was new. -/
def serviceTicket : Layout ServiceTicket :=
  (pair text (pair instant (pair expirationPolicy (pair text (pair service flag))))).iso
    (fun (id, created, policy, parent, service, fromNewLogin) =>
      ⟨id, created, policy, parent, service, fromNewLogin⟩)
    fun t => (t.id, t.created, t.policy, t.parent, t.service, t.fromNewLogin)

/-- A proxy-granting ticket: body, parent, and the service that acts as a proxy. -/
def proxyTicket : Layout ProxyTicket :=
  (pair session (pair text service)).iso
    (fun (body, parent, proxiedBy) => ⟨body, parent, proxiedBy⟩)
    fun t => (t.body, t.parent, t.proxiedBy)

/-- A sealed ticket: identifier and payload. -/
def sealedTicket : Layout SealedTicket :=
  (pair text (list byte)).iso (fun (id, payload) => ⟨id, payload⟩) fun t => (t.id, t.payload)

/-- A ticket: the number of its kind, and the ticket. -/
def ticket : Layout Ticket where
  write
    | .session t => littleEndian 4 0 ++ session.write t
    | .service t => littleEndian 4 1 ++ serviceTicket.write t
    | .proxy t => littleEndian 4 2 ++ proxyTicket.write t
    | .sealed t => littleEndian 4 3 ++ sealedTicket.write t
  read bytes :=
    match readVariant 4 bytes with
    | .error fault => .error fault
    | .ok (0, rest) => (session.read rest).map fun (t, rest) => (.session t, rest)
    | .ok (1, rest) => (serviceTicket.read rest).map fun (t, rest) => (.service t, rest)
    | .ok (2, rest) => (proxyTicket.read rest).map fun (t, rest) => (.proxy t, rest)
    | .ok (_, rest) => (sealedTicket.read rest).map fun (t, rest) => (.sealed t, rest)
  fits
    | .session t => session.fits t
    | .service t => serviceTicket.fits t
    | .proxy t => proxyTicket.fits t
    | .sealed t => sealedTicket.fits t

end SignOn.Layout
