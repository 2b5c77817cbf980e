import SignOn.Calendar.Duration
import SignOn.Text.Record

/-!
# Expiration

When a ticket stops being valid. The policy is part of the ticket. A timeout compares the whole
seconds since the creation, truncated toward zero, with the lifetime.

## Main definitions

* `ExpirationPolicy` - never, always, or some seconds after the creation
* `ExpirationPolicy.timeout` - the policy of a duration
* `ExpirationPolicy.isExpired` - whether a ticket created at one instant is expired at another
-/

namespace SignOn

/-- When a ticket stops being valid. -/
inductive ExpirationPolicy where
  | never
  | always
  /-- So many seconds after the creation. -/
  | after (seconds : Int64)
  deriving DecidableEq, Repr

namespace ExpirationPolicy

/-- The timeout of a duration, in whole seconds truncated toward zero. -/
def timeout (d : Duration) : ExpirationPolicy := .after (Int64.ofInt d.wholeSeconds)

/-- Whether a ticket that was created at one instant is expired at another. -/
def isExpired (policy : ExpirationPolicy) (created now : Instant) : Bool :=
  match policy with
  | never => false
  | always => true
  | after seconds => seconds.toInt ≤ now.wholeSecondsSince created

/-- The text that a policy is shown as. -/
def diagnosis : ExpirationPolicy → String
  | never => "NeverExpires"
  | always => "AlwaysExpires"
  | after seconds => Text.record "HardTimeout" [("time_to_live_secs", toString seconds.toInt)]

end ExpirationPolicy

end SignOn
