import SignOn.Registry.Error
import SignOn.Ticket.Basic

/-!
# Backends

A backend keeps tickets under texts. It knows nothing of the meaning of its keys; every operation is
about one key, except the scan of everything, which a backend need not offer. An operation that
fails may have changed the backend all the same, and what it changed stays changed.

## Main definitions

* `Action` - a change of state that gives a value or fails
* `Backend` - reading, writing and deleting under a key, and scanning
* `Backend.scanless` - a backend that cannot scan
-/

namespace SignOn

/-- A change of state that gives a value or fails. A failure does not undo the changes made before
it. -/
abbrev Action (σ : Type) : Type → Type := EStateM RegistryError σ

namespace Action

variable {σ α β : Type}

/-- The result of an action in a state. -/
def outcome (action : Action σ α) (s : σ) : Except RegistryError α :=
  match action s with
  | .ok a _ => .ok a
  | .error e _ => .error e

/-- The state after an action, whether it failed or not. -/
def after (action : Action σ α) (s : σ) : σ :=
  match action s with
  | .ok _ t => t
  | .error _ t => t

/-- The action that gives a value or fails, and changes nothing. -/
def ofExcept : Except RegistryError α → Action σ α
  | .ok a => pure a
  | .error e => throw e

@[simp] theorem ofExcept_ok (a : α) (s : σ) : ofExcept (.ok a) s = .ok a s := rfl

@[simp] theorem ofExcept_error (e : RegistryError) (s : σ) :
    (ofExcept (.error e) : Action σ α) s = .error e s := rfl

theorem bind_of_ok {first : Action σ α} {s t : σ} {a : α} (h : first s = .ok a t)
    (next : α → Action σ β) : (first >>= next) s = next a t := by
  simp only [bind, EStateM.bind, h]

theorem bind_of_error {first : Action σ α} {s t : σ} {e : RegistryError} (h : first s = .error e t)
    (next : α → Action σ β) : (first >>= next) s = .error e t := by
  simp only [bind, EStateM.bind, h]

/-- Two actions in a row succeed when the first does and then the second does. -/
theorem bind_eq_ok_iff {first : Action σ α} {next : α → Action σ β} {s u : σ} {b : β} :
    (first >>= next) s = .ok b u ↔ ∃ a t, first s = .ok a t ∧ next a t = .ok b u := by
  constructor
  · intro h
    cases hfirst : first s with
    | ok a t => exact ⟨a, t, rfl, by rwa [bind_of_ok hfirst] at h⟩
    | error e t => rw [bind_of_error hfirst] at h; cases h
  · rintro ⟨a, t, hfirst, hnext⟩
    rw [bind_of_ok hfirst, hnext]

end Action

/-- Where tickets are kept. -/
structure Backend (σ : Type) where
  /-- The ticket under a key, if there is one. -/
  get : String → Action σ (Option Ticket)
  /-- Puts a ticket under a key, replacing the one that is there. -/
  put : String → Ticket → Action σ Unit
  /-- Deletes the ticket under a key; tells whether there was one. -/
  delete : String → Action σ Bool
  /-- All tickets, as they are kept. -/
  scan : Action σ (List Ticket)

namespace Backend

/-- The backend without its scan. -/
def scanless {σ : Type} (backend : Backend σ) : Backend σ :=
  { backend with scan := throw (.unsupported "scan") }

end Backend

end SignOn
