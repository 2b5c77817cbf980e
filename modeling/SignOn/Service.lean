/-!
# Services

An application that users sign on to, known by the address of its login page.

## Main definitions

* `Service` - a service and its identifier
* `Service.order` - services are ordered as their identifiers are
-/

namespace SignOn

/-- An application that tickets and login outcomes are issued for. -/
structure Service where
  id : String
  deriving DecidableEq, Repr

namespace Service

/-- The text that stands for a service. -/
def text (s : Service) : String := s.id

/-- The order of services is the order of their identifiers. -/
def order (s t : Service) : Ordering :=
  if s.id < t.id then .lt else if s.id = t.id then .eq else .gt

end Service

end SignOn
