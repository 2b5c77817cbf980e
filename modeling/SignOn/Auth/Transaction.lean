import SignOn.Auth.Election
import SignOn.Service

/-!
# Login transactions

A login may take several steps: a first authentication and any number of further ones. A transaction
collects them, in order and without repetition, together with the credentials that were presented.
Its outcome is one composite authentication: attributes are merged, handler reports and refusals are
taken together with the last one of a name winning, credentials are listed one after the other, and
a strategy elects the principal.

## Main definitions

* `Transaction` - the authentications and credentials collected
* `Outcome` - the composite authentication, the service it is for, and whether a credential was
  presented
* `Transaction.composite?` - the composite authentication
* `Transaction.outcome?` - the outcome; there is none without any authentication
-/

namespace SignOn

/-- The authentications and credentials collected during a login. -/
structure Transaction where
  authentications : List Authentication
  credentials : List Credential
  deriving DecidableEq

/-- The outcome of a login. -/
structure Outcome where
  authentication : Authentication
  service : Option Service
  credentialProvided : Bool
  deriving DecidableEq

namespace Transaction

/-- The transaction in which nothing was collected. -/
def start : Transaction := ⟨[], []⟩

/-- Collects an authentication, unless an equal one was collected before. -/
def collect (t : Transaction) (a : Authentication) : Transaction :=
  if a ∈ t.authentications then t else { t with authentications := t.authentications ++ [a] }

/-- Collects a credential that was presented. -/
def present (t : Transaction) (c : Credential) : Transaction :=
  { t with credentials := t.credentials ++ [c] }

/-- The first authentication collected. -/
def initial? (t : Transaction) : Option Authentication := t.authentications.head?

/-- Whether no authentication was collected. -/
def isEmpty (t : Transaction) : Bool := t.authentications.isEmpty

/-- The text that a transaction is shown as: how much it holds. -/
def diagnosis (t : Transaction) : String :=
  Text.partialRecord "AuthenticationResultBuilder"
    [("authentications", toString t.authentications.length),
      ("credentials", toString t.credentials.length)]

/-! ### The composite authentication -/

/-- The merged attributes of the principals. -/
def principalAttributes (as : List Authentication) : Attributes :=
  as.foldl (fun merged a => merged.merge a.principal.attributes) .empty

/-- The merged attributes of the authentications. -/
def authenticationAttributes (as : List Authentication) : Attributes :=
  as.foldl (fun merged a => merged.merge a.attributes) .empty

/-- Adds reports, refusals and credentials of an authentication to a draft. -/
def addHistory (d : Draft) (a : Authentication) : Draft :=
  ((d.addSuccesses a.successes.entries).addFailures a.failures.entries).addCredentials a.credentials

/-- The draft with the reports, refusals and credentials of all authentications. -/
def history (as : List Authentication) : Draft := as.foldl addHistory .blank

/-- The composite authentication, if anything was collected. -/
def composite? (t : Transaction) (elect : Election) (now : Instant) :
    Except AuthError (Option Authentication) :=
  let as := t.authentications
  -- Nothing collected is no failure: the strategy is not even asked.
  if as.isEmpty then .ok none
  else
    match elect as (principalAttributes as) with
    | .error e => .error e
    | .ok principal =>
      let attributes := authenticationAttributes as
      let draft := ((history as).withPrincipal principal).withAttributes attributes
      ((draft.withDate now).build now).map some

/-- The outcome of a login, for a service if there is one. -/
def outcome? (t : Transaction) (elect : Election) (now : Instant) (service : Option Service) :
    Except AuthError (Option Outcome) :=
  (t.composite? elect now).map fun composite =>
    composite.map fun a => ⟨a, service, !t.credentials.isEmpty⟩

end Transaction

end SignOn
