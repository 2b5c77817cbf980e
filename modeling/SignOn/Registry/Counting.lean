import SignOn.Registry.Basic

/-!
# Counting tickets

How many sessions and how many service tickets there are. Counting never fails: where the tickets
cannot all be listed and decoded, the count is unknown.

## Main definitions

* `TicketCount` - a number, or unknown
* `Registry.sessionCount`, `Registry.serviceCount` - the two counts
-/

namespace SignOn

/-- A number of tickets, or the least integer of sixty-four bits where it is unknown. -/
abbrev TicketCount := Int

/-- The count where the tickets cannot be counted. -/
def TicketCount.unknown : TicketCount := Int64.minValue.toInt

/-- Unknown is not a number of tickets. -/
theorem TicketCount.unknown_lt (n : Nat) : TicketCount.unknown < (n : Int) :=
  Int.lt_of_lt_of_le (by decide) (Int.natCast_nonneg n)

namespace Registry

variable {σ : Type}

/-- How many tickets answer a look-up for a kind. -/
def countOf (r : Registry σ) (kind : TicketKind) : Action (World σ) TicketCount := fun w =>
  match r.all w with
  | .ok tickets w => .ok (tickets.countP fun ticket => ticket.kind.answers kind : Nat) w
  | .error _ w => .ok .unknown w

/-- How many sessions there are; a proxy-granting ticket is one too. -/
def sessionCount (r : Registry σ) : Action (World σ) TicketCount := r.countOf .session

/-- How many service tickets there are. -/
def serviceCount (r : Registry σ) : Action (World σ) TicketCount := r.countOf .service

end Registry

end SignOn
