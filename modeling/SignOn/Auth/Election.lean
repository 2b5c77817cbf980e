import SignOn.Auth.Authentication

/-!
# Election of a principal

Several authentications of one login may name different principals; exactly one represents the
login. A strategy is any function from the authentications and the merged attributes of their
principals.

## Main definitions

* `Election` - a strategy
* `Election.first` - the first principal, with the merged attributes; this is the usual strategy
* `Election.last` - the last principal as it is
* `Election.headcount` - the number of authentications, as a principal
* `Election.unanimous` - the first principal, if no authentication names another one
-/

namespace SignOn

/-- How the principal that represents a login is chosen. -/
abbrev Election := List Authentication → Attributes → Except AuthError Principal

namespace Election

/-- Elects the first principal and gives it the merged attributes. -/
def first : Election
  | [], _ => .error .noPrincipal
  | a :: _, attributes => .ok ((Principal.named a.principal.id).withAttributes attributes)

/-- Elects the last principal and leaves it as it is. -/
def last : Election := fun authentications _ =>
  match authentications.getLast? with
  | none => .error .noPrincipal
  | some a => .ok a.principal

/-- Elects a principal that is called as many authentications as there are, with the merged
attributes. -/
def headcount : Election := fun authentications attributes =>
  .ok ((Principal.named (toString authentications.length)).withAttributes attributes)

/-- Elects the first principal with the merged attributes, unless an authentication names another
one. -/
def unanimous : Election
  | [], _ => .error .noPrincipal
  | a :: rest, attributes =>
    match rest.find? fun b => b.principal.id ≠ a.principal.id with
    | some b => .error (.election (b.principal.id ++ " is not " ++ a.principal.id))
    | none => .ok ((Principal.named a.principal.id).withAttributes attributes)

end Election

end SignOn
