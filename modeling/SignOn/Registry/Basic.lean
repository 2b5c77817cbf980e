import SignOn.Registry.Metrics
import SignOn.Registry.Sealing
import SignOn.Store.Backend
import SignOn.Tape

/-!
# The registry

A registry puts tickets into a backend and finds them again. A sealing decides what is put there and
under which key. The backend, the random bytes for encryption and the metrics make up the world that
the operations of a registry change.

## Main definitions

* `World` - the state of a backend, random bytes, and metrics
* `Registry` - a backend and a sealing
* `Registry.update`, `Registry.add` - putting a ticket
* `Registry.find`, `Registry.findAs`, `Registry.findService`, `Registry.findProxy`, `Registry.all` -
  look-ups
* `Registry.isOrphaned` - whether the session of a service ticket is gone
-/

namespace SignOn

/-- What the operations of a registry change. -/
structure World (σ : Type) where
  store : σ
  tape : Tape
  metrics : Metrics

namespace World

variable {σ α : Type}

/-- An action of the backend, as a change of the world. -/
def onStore (action : Action σ α) : Action (World σ) α := fun w =>
  match action w.store with
  | .ok a store => .ok a { w with store := store }
  | .error e store => .error e { w with store := store }

/-- Draws random bytes. -/
def draw (count : Nat) : Action (World σ) (List UInt8) := fun w =>
  let (bytes, tape) := w.tape.draw count
  .ok bytes { w with tape := tape }

/-- Increments a counter. -/
def count (counter : Counter) (n : Nat) : Action (World σ) Unit := fun w =>
  .ok () { w with metrics := w.metrics.add counter n }

end World

/-- A backend, and how tickets are kept there. -/
structure Registry (σ : Type) where
  backend : Backend σ
  sealing : Sealing

namespace Registry

variable {σ : Type}

/-! ### Putting tickets -/

/-- What is stored for a ticket; draws the random bytes that encryption needs. -/
def encode (r : Registry σ) (ticket : Ticket) : Action (World σ) Ticket := do
  let nonce ← World.draw (r.sealing.nonceLength ticket)
  Action.ofExcept (r.sealing.encode nonce ticket)

/-- Puts a ticket into the backend, under the identifier of what is stored for it. -/
def update (r : Registry σ) (ticket : Ticket) : Action (World σ) Unit := do
  let stored ← r.encode ticket
  World.onStore (r.backend.put stored.id stored)

/-- Puts a new ticket into the backend, and counts it. -/
def add (r : Registry σ) (ticket : Ticket) : Action (World σ) Unit := do
  r.update ticket
  World.count (.added ticket.kind) 1

/-! ### Finding tickets -/

/-- The ticket with an identifier. Under a blank identifier there is none, and the backend is not
asked. -/
def find (r : Registry σ) (id : String) : Action (World σ) (Option Ticket) := do
  if Text.isBlank id then return none
  match ← World.onStore (r.backend.get (r.sealing.key id)) with
  | none => return none
  | some stored =>
    let ticket ← Action.ofExcept (r.sealing.decode stored)
    return some ticket

theorem find_of_isBlank (r : Registry σ) {id : String} (h : Text.isBlank id = true) (w : World σ) :
    r.find id w = .ok none w := by
  simp only [find, h, if_true]
  rfl

/-- The ticket with an identifier, which has to answer a look-up for a kind. -/
def findAs (r : Registry σ) (id : String) (expected : TicketKind) :
    Action (World σ) (Option Ticket) := do
  match ← r.find id with
  | none => return none
  | some ticket =>
    if ticket.kind.answers expected then return some ticket
    else throw (.typeMismatch ticket.id expected.name ticket.kind.name)

/-- The service ticket with an identifier. -/
def findService (r : Registry σ) (id : String) : Action (World σ) (Option ServiceTicket) := do
  let found ← r.findAs id .service
  return found.bind Ticket.service?

/-- The proxy-granting ticket with an identifier. -/
def findProxy (r : Registry σ) (id : String) : Action (World σ) (Option ProxyTicket) := do
  let found ← r.findAs id .proxy
  return found.bind Ticket.proxy?

/-- All tickets. One that cannot be decoded fails the look-up. -/
def all (r : Registry σ) : Action (World σ) (List Ticket) := do
  let stored ← World.onStore r.backend.scan
  Action.ofExcept (r.sealing.decodeAll stored)

/-- Whether the session that a service ticket came from is gone. -/
def isOrphaned (r : Registry σ) (ticket : ServiceTicket) : Action (World σ) Bool := do
  let parent ← r.find ticket.parent
  return parent.isNone

end Registry

end SignOn
