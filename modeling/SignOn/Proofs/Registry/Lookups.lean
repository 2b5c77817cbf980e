import SignOn.Registry.Basic

/-!
# Look-ups for a kind

Whoever asks for a ticket of a kind shall learn whatever the plain look-up would tell. A look-up for
a kind finds nothing exactly if the plain one finds nothing. A ticket of another kind is refused and
not passed over, a failure is passed on as it is, and a ticket that answers is the one that the
plain look-up finds. The look-ups that give a ticket of a single kind convert it at the end, and
that conversion gives nothing for other kinds. It loses no ticket, since every ticket that answers
the look-up is of the kind that it is converted to.

## Main definitions

* `Registry.Narrowed` - what becomes of a result when a ticket of a kind is expected
* `Registry.Narrows` - a look-up for a kind tells what the plain look-up tells

## Main results

* `Registry.Narrowed.convert` - a conversion that is total on what answers loses nothing
* `Registry.narrows_of_narrowed` - when a look-up for a kind finds, refuses and fails
* `Registry.narrows_find` - all look-ups for a kind
-/

namespace SignOn

/-! ### Tickets that answer -/

namespace Ticket

variable {t : Ticket}

theorem exists_of_answers_service (h : t.kind.answers .service = true) :
    ∃ u, Ticket.service u = t := by
  cases t with
  | service u => exact ⟨u, rfl⟩
  | session _ | proxy _ | sealed _ => cases h

theorem exists_of_answers_proxy (h : t.kind.answers .proxy = true) : ∃ p, Ticket.proxy p = t := by
  cases t with
  | proxy p => exact ⟨p, rfl⟩
  | session _ | service _ | sealed _ => cases h

end Ticket

namespace Registry

variable {σ α : Type} {expected : TicketKind} {view : α → Ticket}
  {plain : Action (World σ) (Option Ticket)} {typed : Action (World σ) (Option α)}

/-- What becomes of the result of the plain look-up when a ticket of a kind is expected, and is then
seen as one of that kind. -/
inductive Narrowed (expected : TicketKind) (view : α → Ticket) :
    EStateM.Result RegistryError (World σ) (Option Ticket) →
    EStateM.Result RegistryError (World σ) (Option α) → Prop where
  | absent (w : World σ) : Narrowed expected view (.ok none w) (.ok none w)
  | found (a : α) (w : World σ) (h : (view a).kind.answers expected = true) :
      Narrowed expected view (.ok (some (view a)) w) (.ok (some a) w)
  | refused (t : Ticket) (w : World σ) (h : t.kind.answers expected = false) :
      Narrowed expected view (.ok (some t) w)
        (.error (.typeMismatch t.id expected.name t.kind.name) w)
  | failed (e : RegistryError) (w : World σ) : Narrowed expected view (.error e w) (.error e w)

theorem narrowed_findAs (r : Registry σ) (id : String) (expected : TicketKind) (w : World σ) :
    Narrowed expected (fun t => t) (r.find id w) (r.findAs id expected w) := by
  unfold findAs
  cases hfind : r.find id w with
  | error e w' =>
    rw [Action.bind_of_error hfind]
    exact .failed e w'
  | ok found w' =>
    rw [Action.bind_of_ok hfind]
    cases found with
    | none => exact .absent w'
    | some t =>
      cases hkind : t.kind.answers expected with
      | true =>
        simp only [hkind, if_true]
        exact .found t w' hkind
      | false =>
        simp only [hkind]
        exact .refused t w' hkind

/-- A conversion at the end loses nothing, if it is undone by seeing the result as a ticket, and
every ticket that answers is seen so. -/
theorem Narrowed.convert {w : World σ} {typed : Action (World σ) (Option Ticket)}
    (h : Narrowed expected (fun t => t) (plain w) (typed w)) {convert : Ticket → Option α}
    (hview : ∀ a, convert (view a) = some a)
    (htotal : ∀ t : Ticket, t.kind.answers expected = true → ∃ a, view a = t) :
    Narrowed expected view (plain w) ((typed >>= fun found => pure (found.bind convert)) w) := by
  generalize hplain : plain w = x, htyped : typed w = y at h
  cases h with
  | absent w' =>
    rw [Action.bind_of_ok htyped]
    exact .absent w'
  | found t w' hkind =>
    obtain ⟨a, rfl⟩ := htotal t hkind
    rw [Action.bind_of_ok htyped, Option.bind_some, hview]
    exact .found a w' hkind
  | refused t w' hkind =>
    rw [Action.bind_of_error htyped]
    exact .refused t w' hkind
  | failed e w' =>
    rw [Action.bind_of_error htyped]
    exact .failed e w'

/-! ### What a look-up for a kind tells -/

namespace Narrowed

variable {x : EStateM.Result RegistryError (World σ) (Option Ticket)}
  {y : EStateM.Result RegistryError (World σ) (Option α)} {w : World σ}

theorem none_iff (h : Narrowed expected view x y) : y = .ok none w ↔ x = .ok none w := by
  cases h <;> simp

theorem error_iff (h : Narrowed expected view x y) {e : RegistryError} :
    y = .error e w ↔ x = .error e w ∨ ∃ t, x = .ok (some t) w ∧ t.kind.answers expected = false ∧
      e = .typeMismatch t.id expected.name t.kind.name := by
  cases h with
  | absent w' => simp
  | found a w' hkind => simp [hkind]
  | failed e' w' => simp
  | refused t w' hkind =>
    constructor
    · intro heq
      obtain ⟨rfl, rfl⟩ := EStateM.Result.error.inj heq
      exact .inr ⟨t, rfl, hkind, rfl⟩
    · rintro (heq | ⟨t', heq, -, rfl⟩)
      · cases heq
      · cases heq
        rfl

theorem found_iff (h : Narrowed expected view x y) {t : Ticket} :
    (∃ a, y = .ok (some a) w ∧ view a = t) ↔
      x = .ok (some t) w ∧ t.kind.answers expected = true := by
  cases h with
  | absent w' => simp
  | failed e w' => simp
  | found a w' hkind =>
    constructor
    · rintro ⟨a', heq, rfl⟩
      cases heq
      exact ⟨rfl, hkind⟩
    · rintro ⟨heq, -⟩
      cases heq
      exact ⟨a, rfl, rfl⟩
  | refused t' w' hkind =>
    constructor
    · rintro ⟨a, heq, -⟩
      cases heq
    · rintro ⟨heq, hanswers⟩
      cases heq
      rw [hkind] at hanswers
      cases hanswers

end Narrowed

/-- A look-up for a kind tells what the plain look-up tells, and leaves the same world. It finds
nothing exactly if the plain one finds nothing. It fails exactly if the plain one fails, in the same
way, or finds a ticket that does not answer; then it names this ticket and both kinds. And what it
finds is the ticket that the plain one finds, which answers, seen as one of a kind. -/
structure Narrows (plain : Action (World σ) (Option Ticket)) (typed : Action (World σ) (Option α))
    (expected : TicketKind) (view : α → Ticket) : Prop where
  none_iff : ∀ w w', typed w = .ok none w' ↔ plain w = .ok none w'
  error_iff : ∀ e w w', typed w = .error e w' ↔ plain w = .error e w' ∨
    ∃ t, plain w = .ok (some t) w' ∧ t.kind.answers expected = false ∧
      e = .typeMismatch t.id expected.name t.kind.name
  found_iff : ∀ t w w', (∃ a, typed w = .ok (some a) w' ∧ view a = t) ↔
    plain w = .ok (some t) w' ∧ t.kind.answers expected = true

theorem narrows_of_narrowed (h : ∀ w, Narrowed expected view (plain w) (typed w)) :
    Narrows plain typed expected view where
  none_iff w _ := (h w).none_iff
  error_iff _ w _ := (h w).error_iff
  found_iff _ w _ := (h w).found_iff

/-- Whatever the backend and the sealing, each look-up for a kind tells what the plain look-up of
the same identifier tells: the one for any kind, which gives the ticket as it is, and the ones that
give a service ticket or a proxy-granting ticket. So a proxy-granting ticket that is found when a
session is asked for is given with its parent and with the service that acts as a proxy. -/
theorem narrows_find (r : Registry σ) (id : String) :
    (∀ expected, Narrows (r.find id) (r.findAs id expected) expected fun t => t) ∧
      Narrows (r.find id) (r.findService id) .service Ticket.service ∧
      Narrows (r.find id) (r.findProxy id) .proxy Ticket.proxy ∧
      ∀ p w w', r.findAs id .session w = .ok (some (.proxy p)) w' ↔
        r.find id w = .ok (some (.proxy p)) w' := by
  have hany := fun expected => narrows_of_narrowed (narrowed_findAs r id expected)
  refine ⟨hany, narrows_of_narrowed fun w => ?_, narrows_of_narrowed fun w => ?_, fun p w w' => ?_⟩
  · exact (narrowed_findAs r id .service w).convert (fun _ => rfl)
      fun _ => Ticket.exists_of_answers_service
  · exact (narrowed_findAs r id .proxy w).convert (fun _ => rfl)
      fun _ => Ticket.exists_of_answers_proxy
  · have hanswers : (Ticket.proxy p).kind.answers .session = true := rfl
    simpa [hanswers] using (hany .session).found_iff (.proxy p) w w'

end Registry

end SignOn
