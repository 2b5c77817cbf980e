import SignOn.Auth.Transaction
import SignOn.Wire.Layout

/-!
# The stored format of authentications

## Main definitions

* `Layout.principal`, `Layout.credential`, `Layout.handlerReport` - the parts of an authentication
* `Layout.authentication`, `Layout.outcome` - an authentication and the outcome of a login
-/

namespace SignOn.Layout

/-- A service: its identifier. -/
def service : Layout Service := text.iso Service.mk Service.id

/-- The value of an attribute: alternative zero is a single value, alternative one a list. -/
def attributeValue : Layout AttributeValue where
  write
    | .single value => littleEndian 4 0 ++ text.write value
    | .multi values => littleEndian 4 1 ++ (list text).write values
  read bytes :=
    match readVariant 2 bytes with
    | .error fault => .error fault
    | .ok (0, rest) => (text.read rest).map fun (value, rest) => (.single value, rest)
    | .ok (_, rest) => ((list text).read rest).map fun (values, rest) => (.multi values, rest)
  fits
    | .single value => text.fits value
    | .multi values => (list text).fits values

/-- Attributes by name. -/
def attributes : Layout Attributes := textMap attributeValue

/-- A principal: identifier and attributes. -/
def principal : Layout Principal :=
  (pair text attributes).iso (fun (id, attributes) => ⟨id, attributes⟩)
    fun p => (p.id, p.attributes)

/-- A credential: the number of its kind, and its two texts. -/
def credential : Layout Credential where
  write
    | .usernamePassword username password =>
      littleEndian 4 0 ++ (pair text text).write (username, password)
    | .oneTimePassword id token => littleEndian 4 1 ++ (pair text text).write (id, token)
    | .token id token => littleEndian 4 2 ++ (pair text text).write (id, token)
  read bytes :=
    match readVariant 3 bytes with
    | .error fault => .error fault
    | .ok (0, rest) =>
      ((pair text text).read rest).map fun (c, rest) => (.usernamePassword c.1 c.2, rest)
    | .ok (1, rest) =>
      ((pair text text).read rest).map fun (c, rest) => (.oneTimePassword c.1 c.2, rest)
    | .ok (_, rest) => ((pair text text).read rest).map fun (c, rest) => (.token c.1 c.2, rest)
  fits
    | .usernamePassword username password => (pair text text).fits (username, password)
    | .oneTimePassword id token => (pair text text).fits (id, token)
    | .token id token => (pair text text).fits (id, token)

/-- The summary of a credential: identifier and kind. -/
def credentialSummary : Layout CredentialSummary :=
  (pair text text).iso (fun (id, kind) => ⟨id, kind⟩) fun c => (c.id, c.kind)

/-- The report of a handler: name, credential, principal and warnings. -/
def handlerReport : Layout HandlerReport :=
  (pair text (pair credentialSummary (pair (option principal) (list text)))).iso
    (fun (handler, credential, principal, warnings) => ⟨handler, credential, principal, warnings⟩)
    fun r => (r.handler, r.credential, r.principal, r.warnings)

/-- An authentication: principal, credentials, successes, failures, attributes and date. -/
def authentication : Layout Authentication :=
  (pair principal (pair (list credentialSummary) (pair (textMap handlerReport)
      (pair (textMap text) (pair attributes instant))))).iso
    (fun (principal, credentials, successes, failures, attributes, date) =>
      ⟨principal, credentials, successes, failures, attributes, date⟩)
    fun a => (a.principal, a.credentials, a.successes, a.failures, a.attributes, a.date)

/-- The outcome of a login: authentication, service, and whether a credential was presented. -/
def outcome : Layout Outcome :=
  (pair authentication (pair (option service) flag)).iso
    (fun (authentication, service, credentialProvided) =>
      ⟨authentication, service, credentialProvided⟩)
    fun o => (o.authentication, o.service, o.credentialProvided)

end SignOn.Layout
