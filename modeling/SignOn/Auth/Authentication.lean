import SignOn.Auth.Principal
import SignOn.Auth.Credential
import SignOn.Auth.Error
import SignOn.Calendar.Instant

/-!
# Authentications

An authentication records who logged in, with which credentials, which handlers accepted or refused
them, and when. It is put together from a draft.

## Main definitions

* `HandlerReport` - what a handler that accepted a credential reports
* `Authentication` - a completed authentication
* `Draft` - an authentication in the making
* `Draft.build` - the completed authentication of a draft that has a principal
-/

namespace SignOn

/-- What a handler that accepted a credential reports. -/
structure HandlerReport where
  handler : String
  credential : CredentialSummary
  principal : Option Principal
  warnings : List String
  deriving DecidableEq

/-- A completed authentication. -/
structure Authentication where
  principal : Principal
  credentials : List CredentialSummary
  successes : TextMap HandlerReport
  failures : TextMap String
  attributes : Attributes
  date : Instant
  deriving DecidableEq

/-- Whether a handler accepted a credential. -/
def Authentication.isSuccessful (a : Authentication) : Bool := !a.successes.isEmpty

/-- An authentication in the making; principal and date may still be open. -/
structure Draft where
  principal : Option Principal
  credentials : List CredentialSummary
  successes : TextMap HandlerReport
  failures : TextMap String
  attributes : Attributes
  date : Option Instant
  deriving DecidableEq

namespace Draft

/-- The draft in which everything is open. -/
def blank : Draft := ⟨none, [], .empty, .empty, .empty, none⟩

/-- The draft for a principal. -/
def ofPrincipal (principal : Principal) : Draft := { blank with principal := some principal }

/-- The draft that continues an authentication. -/
def ofAuthentication (a : Authentication) : Draft :=
  ⟨some a.principal, a.credentials, a.successes, a.failures, a.attributes, some a.date⟩

/-- Sets the principal. -/
def withPrincipal (d : Draft) (principal : Principal) : Draft :=
  { d with principal := some principal }

/-- Appends credentials. -/
def addCredentials (d : Draft) (credentials : List CredentialSummary) : Draft :=
  { d with credentials := d.credentials ++ credentials }

/-- Records handlers that accepted; a later report under a name replaces an earlier one. -/
def addSuccesses (d : Draft) (reports : List (String × HandlerReport)) : Draft :=
  { d with successes := d.successes.insertMany reports }

/-- Records a report under the name of its handler. -/
def addSuccess (d : Draft) (report : HandlerReport) : Draft :=
  d.addSuccesses [(report.handler, report)]

/-- Records handlers that refused; a later message under a name replaces an earlier one. -/
def addFailures (d : Draft) (failures : List (String × String)) : Draft :=
  { d with failures := d.failures.insertMany failures }

/-- Sets one attribute. -/
def addAttribute (d : Draft) (name : String) (value : AttributeValue) : Draft :=
  { d with attributes := d.attributes.insert name value }

/-- Merges attributes into those of the draft. -/
def mergeAttributes (d : Draft) (attributes : Attributes) : Draft :=
  { d with attributes := Attributes.merge d.attributes attributes }

/-- Replaces the attributes. -/
def withAttributes (d : Draft) (attributes : Attributes) : Draft :=
  { d with attributes := attributes }

/-- Sets the date. -/
def withDate (d : Draft) (date : Instant) : Draft := { d with date := some date }

/-- Whether an attribute is set. -/
def hasAttribute (d : Draft) (name : String) : Bool := d.attributes.contains name

/-- The completed authentication; it needs a principal, and an open date becomes `now`. -/
def build (d : Draft) (now : Instant) : Except AuthError Authentication :=
  match d.principal with
  | none => .error .missingPrincipal
  | some principal =>
    .ok ⟨principal, d.credentials, d.successes, d.failures, d.attributes, d.date.getD now⟩

end Draft

end SignOn
