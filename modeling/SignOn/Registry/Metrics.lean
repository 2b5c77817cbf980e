import SignOn.TextMap.Basic
import SignOn.Ticket.Kind

/-!
# Metrics

Counters that only go up. A counter is there once it was incremented, even if only by zero.

## Main definitions

* `Counter` - what is counted
* `Metrics` - the counters by their names
* `Metrics.add` - incrementing a counter
-/

namespace SignOn

/-- What is counted. -/
inductive Counter where
  /-- Tickets of a kind that were added. -/
  | added (kind : TicketKind)
  /-- Tickets that were deleted, each together with what came from it. -/
  | deleted
  deriving DecidableEq, Repr

/-- The name of a counter. -/
def Counter.name : Counter → String
  | added kind => "ticket_registry.tickets_added\x7bkind=" ++ kind.name ++ "\x7d"
  | deleted => "ticket_registry.tickets_deleted"

/-- Counters by their names. -/
abbrev Metrics := TextMap Nat

namespace Metrics

/-- Increments a counter. -/
def add (m : Metrics) (counter : Counter) (n : Nat) : Metrics :=
  m.insert counter.name ((m.get? counter.name).getD 0 + n)

end Metrics

end SignOn
