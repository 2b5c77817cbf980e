/-!
# Failures of an authentication

Why no authentication could be put together. A login without any authentication is none of them: it
has no outcome, which its caller has to judge.

## Main definitions

* `AuthError` - the causes
* `AuthError.message` - their wording
* `AuthError.isElection` - whether the election of a principal failed
-/

namespace SignOn

/-- Why no authentication could be put together. -/
inductive AuthError where
  /-- There was no authentication to elect a principal from. -/
  | noPrincipal
  /-- The authentication has no principal. -/
  | missingPrincipal
  /-- The strategy refused the authentications, for this reason. -/
  | election (reason : String)
  deriving DecidableEq, Repr

namespace AuthError

/-- The wording of a failure. -/
def message : AuthError → String
  | noPrincipal => "No principal could be elected from an empty authentication chain"
  | missingPrincipal => "Authentication cannot be built without a principal"
  | election reason => "Principal election failed: " ++ reason

/-- Whether the election of a principal failed. -/
def isElection : AuthError → Bool
  | noPrincipal | election _ => true
  | missingPrincipal => false

end AuthError

end SignOn
