import SignOn.Registry.Basic

/-!
# Assertions about actions

An action gives a value or fails, and what it changed before a failure stays changed. So an
assertion about it has a condition on the state before, one on the value and the state after a
success, and one on the state after a failure.

## Main definitions

* `Action.Triple` - such an assertion

## Main results

* `Action.Triple.bind` - assertions about actions in a row
* `Action.Triple.remember` - the state after an action is the one that it leads to
* `World.triple_onStore` - what an action of the backend keeps of the store is kept of the world
-/

namespace SignOn

namespace Action

variable {σ α β : Type}

/-- From every state with the first property, a success leads to a value and a state with the second
one, and a failure to a state with the third one. -/
def Triple (P : σ → Prop) (f : Action σ α) (Q : α → σ → Prop) (E : σ → Prop) : Prop :=
  ∀ s, P s → match f s with
    | .ok a t => Q a t
    | .error _ t => E t

variable {P P' E E' : σ → Prop} {Q Q' : α → σ → Prop} {R : β → σ → Prop} {f : Action σ α}
  {g : α → Action σ β} {s t : σ} {a : α}

theorem Triple.of_ok (h : Triple P f Q E) (hs : P s) (hf : f s = .ok a t) : Q a t := by
  have hresult := h s hs
  rwa [hf] at hresult

theorem Triple.of_error (h : Triple P f Q E) (hs : P s) {e : RegistryError}
    (hf : f s = .error e t) : E t := by
  have hresult := h s hs
  rwa [hf] at hresult

theorem Triple.pure (h : ∀ s, P s → Q a s) : Triple P (Pure.pure a) Q E := h

theorem Triple.throw {e : RegistryError} (h : ∀ s, P s → E s) :
    Triple P (MonadExcept.throw e : Action σ α) Q E := h

theorem Triple.mono (h : Triple P f Q E) (hP : ∀ s, P' s → P s) (hQ : ∀ a s, Q a s → Q' a s)
    (hE : ∀ s, E s → E' s) : Triple P' f Q' E' := by
  intro s hs
  cases hf : f s with
  | ok a t => exact hQ a t (h.of_ok (hP s hs) hf)
  | error e t => exact hE t (h.of_error (hP s hs) hf)

/-- What holds after the first action is assumed by what follows. -/
theorem Triple.bind (h : Triple P f Q E) (hnext : ∀ a, Triple (Q a) (g a) R E) :
    Triple P (f >>= g) R E := by
  intro s hs
  cases hf : f s with
  | ok a t =>
    rw [bind_of_ok hf]
    exact hnext a t (h.of_ok hs hf)
  | error e t =>
    rw [bind_of_error hf]
    exact h.of_error hs hf

theorem Triple.map (h : Triple P f (fun _ => E) E) (k : α → β) :
    Triple P (k <$> f) (fun _ => E) E :=
  h.bind fun _ => .pure fun _ hs => hs

theorem Triple.ofExcept {x : Except RegistryError α} (hQ : ∀ a, x = .ok a → ∀ s, P s → Q a s)
    (hE : ∀ s, P s → E s) : Triple P (Action.ofExcept x) Q E := by
  cases x with
  | ok a => exact hQ a rfl
  | error e => exact hE

/-- An action with a value as its outcome gives that value, and leads to the state after it. -/
theorem eq_ok_of_outcome (h : f.outcome s = .ok a) : f s = .ok a (f.after s) := by
  unfold outcome at h
  unfold Action.after
  cases hf : f s with
  | ok b t =>
    rw [hf] at h
    obtain rfl := Except.ok.inj h
    rfl
  | error e t =>
    rw [hf] at h
    cases h

theorem Triple.trivial (f : Action σ α) :
    Triple (fun _ => True) f (fun _ _ => True) fun _ => True := by
  intro s _
  cases f s <;> exact True.intro

/-- What holds after a success and after a failure holds afterwards. -/
theorem Triple.after (h : Triple P f (fun _ => E) E) (hs : P s) : E (f.after s) := by
  unfold Action.after
  cases hf : f s with
  | ok a t => exact h.of_ok hs hf
  | error e t => exact h.of_error hs hf

/-- The state after an action is the one that it leads to. -/
theorem Triple.remember (h : Triple P f Q E) (s₀ : σ) :
    Triple (fun s => s = s₀ ∧ P s) f (fun a s => s = f.after s₀ ∧ Q a s) E := by
  rintro s ⟨rfl, hs⟩
  have hresult := h s hs
  unfold Action.after
  cases hf : f s with
  | ok a t => exact ⟨rfl, by rwa [hf] at hresult⟩
  | error e t => rwa [hf] at hresult

end Action

/-- An action of the backend keeps what it keeps of the store. -/
theorem World.triple_onStore {σ α : Type} {P : σ → Prop} {action : Action σ α}
    (h : ∀ s, P s → P (action.after s)) :
    (World.onStore action).Triple (fun w => P w.store) (fun _ w => P w.store)
      (fun w => P w.store) := by
  intro w hw
  have hafter := h w.store hw
  unfold World.onStore
  unfold Action.after at hafter
  cases haction : action w.store <;> rw [haction] at hafter <;> exact hafter

end SignOn
