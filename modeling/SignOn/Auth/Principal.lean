import SignOn.Auth.Attributes

/-!
# Principals

The identity that a login resolved to, with the attributes released for it.

## Main definitions

* `Principal` - an identifier with attributes
-/

namespace SignOn

/-- The identity that a login resolved to. -/
structure Principal where
  id : String
  attributes : Attributes
  deriving DecidableEq

namespace Principal

/-- A principal without attributes. -/
def named (id : String) : Principal := ⟨id, .empty⟩

/-- The principal with other attributes. -/
def withAttributes (p : Principal) (attributes : Attributes) : Principal :=
  { p with attributes := attributes }

/-- The principal with one attribute set. -/
def withAttribute (p : Principal) (name : String) (value : AttributeValue) : Principal :=
  { p with attributes := p.attributes.insert name value }

end Principal

end SignOn
