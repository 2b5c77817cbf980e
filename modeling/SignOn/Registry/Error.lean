import SignOn.Wire.Fault

/-!
# Failures of the registry

What can go wrong between a ticket and its place at rest. An absent ticket is no failure: look-ups
find nothing and deletions count nothing.

## Main definitions

* `RegistryError` - the causes
* `RegistryError.message` - their wording
* `RegistryError.isStorage`, `RegistryError.isIntegrity` - whether the backend failed, or a payload
  cannot be trusted
-/

namespace SignOn

/-- What can go wrong between a ticket and its place at rest. -/
inductive RegistryError where
  /-- The ticket found is not of the kind that was asked for. -/
  | typeMismatch (id expected actual : String)
  /-- A ticket could not be written in the stored format, or not be read from it. -/
  | serialization (reason : String)
  /-- A ticket could not be encrypted or decrypted. -/
  | crypto (reason : String)
  /-- The backend failed. -/
  | storage (reason : String)
  /-- The backend does not offer this operation. -/
  | unsupported (operation : String)
  /-- The settings cannot be used. -/
  | configuration (reason : String)
  deriving DecidableEq, Repr

namespace RegistryError

/-- The wording of a failure. -/
def message : RegistryError → String
  | typeMismatch id expected actual =>
    "Ticket [" ++ id ++ "] is of type " ++ actual ++ " when we were expecting " ++ expected
  | serialization reason => "Ticket serialization error: " ++ reason
  | crypto reason => "Ticket cipher error: " ++ reason
  | storage reason => "Storage error: " ++ reason
  | unsupported operation => "Operation not supported by the ticket store: " ++ operation
  | configuration reason => "Invalid registry configuration: " ++ reason

/-- Whether the backend failed or refused. -/
def isStorage : RegistryError → Bool
  | storage _ | unsupported _ => true
  | _ => false

/-- Whether a stored payload cannot be trusted. -/
def isIntegrity : RegistryError → Bool
  | serialization _ | crypto _ => true
  | _ => false

/-- A fault of the stored format, as a failure of the registry. -/
def ofFault (fault : Wire.Fault) : RegistryError := serialization fault.message

end RegistryError

end SignOn
