import SignOn.Registry.Basic

/-!
# Deleting tickets

With a ticket goes what was issued from it: with a session its service tickets and its
proxy-granting tickets, each with its own service tickets; with a proxy-granting ticket its service
tickets, and its place in the list of the session it came from. The ticket itself goes last, so a
deletion that fails on the way can be tried again.

## Main definitions

* `Registry.deleteOne` - deleting a single ticket
* `Registry.deleteServices` - deleting the service tickets of a session
* `Registry.deleteProxy`, `Registry.deleteSession` - deleting a ticket with what was issued from it
* `Registry.deleteResolved`, `Registry.delete` - deleting any ticket, or by identifier
* `Registry.deleteAll` - deleting everything
-/

namespace SignOn.Registry

variable {σ : Type}

/-- Deletes the single ticket with an identifier; tells whether there was one. -/
def deleteOne (r : Registry σ) (id : String) : Action (World σ) Bool :=
  World.onStore (r.backend.delete (r.sealing.key id))

/-- Deletes the single tickets with some identifiers, one after the other; gives how many there
were. -/
def deleteEach (r : Registry σ) : List String → Action (World σ) Nat
  | [] => return 0
  | id :: rest => do
    let removed ← r.deleteOne id
    let others ← r.deleteEach rest
    return removed.toNat + others

/-- Deletes the service tickets issued from a session. -/
def deleteServices (r : Registry σ) (session : Session) : Action (World σ) Nat :=
  r.deleteEach session.services.keys

/-- Strikes a proxy-granting ticket off the list of the session it came from, if that is still
there. -/
def detach (r : Registry σ) (ticket : ProxyTicket) : Action (World σ) Unit := do
  match ← r.find ticket.parent with
  | some (.session parent) => r.update (.session (parent.removeProxy ticket.id))
  | some (.proxy parent) =>
    r.update (.proxy { parent with body := parent.body.removeProxy ticket.id })
  | some (.service _) | some (.sealed _) | none => return ()

/-- Deletes a proxy-granting ticket: its service tickets, its place in the session it came from, and
the ticket itself. -/
def deleteProxy (r : Registry σ) (ticket : ProxyTicket) : Action (World σ) Nat := do
  let services ← r.deleteServices ticket.body
  -- No session may list a ticket that is gone, so the list is changed first.
  r.detach ticket
  let removed ← r.deleteOne ticket.id
  return services + removed.toNat

/-- Deletes what an identifier in the list of proxy-granting tickets leads to. -/
def deleteLinked (r : Registry σ) (id : String) : Action (World σ) Nat := do
  match ← r.find id with
  | some (.proxy ticket) => r.deleteProxy ticket
  | some other =>
    -- Only a proxy-granting ticket is followed further, so the deletion comes to an end.
    let removed ← r.deleteOne other.id
    return removed.toNat
  | none => return 0

/-- Deletes what each of some identifiers in the list of proxy-granting tickets leads to. -/
def deleteEachLinked (r : Registry σ) : List String → Action (World σ) Nat
  | [] => return 0
  | id :: rest => do
    let removed ← r.deleteLinked id
    let others ← r.deleteEachLinked rest
    return removed + others

/-- Deletes the proxy-granting tickets that a session lists, and then stores the session without
them. -/
def deleteProxies (r : Registry σ) (session : Session) : Action (World σ) Nat := do
  if session.proxies.isEmpty then return 0
  let removed ← r.deleteEachLinked session.proxies.keys
  -- Each of them was struck off one by one; this also drops those that led to no ticket.
  r.update (.session session.clearProxies)
  return removed

/-- Deletes a session: its service tickets, its proxy-granting tickets, and the ticket itself. -/
def deleteSession (r : Registry σ) (session : Session) : Action (World σ) Nat := do
  let services ← r.deleteServices session
  let proxies ← r.deleteProxies session
  let removed ← r.deleteOne session.id
  return services + proxies + removed.toNat

/-- Deletes a ticket, with what was issued from it. -/
def deleteTree (r : Registry σ) : Ticket → Action (World σ) Nat
  | .session session => r.deleteSession session
  | .proxy ticket => r.deleteProxy ticket
  | .service ticket => return (← r.deleteOne ticket.id).toNat
  | .sealed ticket => return (← r.deleteOne ticket.id).toNat

/-- Deletes a ticket that was found before, with what was issued from it. Gives how many tickets
were deleted, and counts them. -/
def deleteResolved (r : Registry σ) (ticket : Ticket) : Action (World σ) Nat := do
  let removed ← r.deleteTree ticket
  World.count .deleted removed
  return removed

/-- Deletes the ticket with an identifier, with what was issued from it. Gives how many tickets were
deleted: none if there is no such ticket. -/
def delete (r : Registry σ) (id : String) : Action (World σ) Nat := do
  match ← r.find id with
  | none => return 0
  | some ticket => r.deleteResolved ticket

/-- Deletes what is stored under some keys, one after the other; gives how many there were. -/
def deleteKeys (r : Registry σ) : List String → Action (World σ) Nat
  | [] => return 0
  | key :: rest => do
    let removed ← World.onStore (r.backend.delete key)
    let others ← r.deleteKeys rest
    return removed.toNat + others

/-- Deletes everything. What is stored has its key as its identifier, so nothing is decoded. -/
def deleteAll (r : Registry σ) : Action (World σ) Nat := do
  let stored ← World.onStore r.backend.scan
  r.deleteKeys (stored.map Ticket.id)

end SignOn.Registry
