import Mathlib.Data.List.Induction
import Mathlib.Data.List.Nodup
import SignOn.Proofs.Auth.Composite

/-!
# Logins in stages

A login may be completed in stages: a first stage ends with a composite authentication, and a later
one, such as a step up to a stronger method, starts from that. The composite stands for all
authentications of the first stage, since each of the four ways in which authentications are put
together can be cut at any place: values that were united are united with more of them, the last of
the last entries is the last one, credentials are listed on, and the first principal stays the first
one. So nothing is counted twice and nothing is lost.

## Main definitions

* `Transaction.gathered` - the transaction in which some authentications and credentials were
  collected

## Main results

* `Attributes.Unites.stage`, `TextMap.TakesLast.stage` - the union of some maps and the last entries
  of some maps stand for these maps
* `Outcome.Composes.stage`, `Outcome.Composes.unique` - so does a composite authentication, and what
  an outcome is put together from determines it
* `Transaction.outcome?_staged` - two stages lead to the same outcome as a single transaction
-/

namespace SignOn

/-! ### Repetitions in stages -/

section EraseDups

variable {α : Type} [DecidableEq α]

theorem nodup_eraseDups (xs : List α) : xs.eraseDups.Nodup := by
  induction xs using List.reverseRecOn with
  | nil => exact List.nodup_nil
  | append_singleton xs x ih =>
    rw [eraseDups_concat]
    split
    next => exact ih
    next hx =>
      refine List.nodup_append.2 ⟨ih, List.nodup_singleton x, ?_⟩
      rintro y hy _ hself rfl
      obtain rfl := List.mem_singleton.1 hself
      exact hx (List.mem_eraseDups.1 hy)

theorem eraseDups_of_nodup {xs : List α} (h : xs.Nodup) : xs.eraseDups = xs := by
  induction xs with
  | nil => rfl
  | cons x xs ih =>
    obtain ⟨hx, hxs⟩ := List.nodup_cons.1 h
    have hfilter : xs.filter (fun y => !y == x) = xs := by
      refine List.filter_eq_self.2 fun y hy => ?_
      have hne : y ≠ x := fun heq => hx (heq ▸ hy)
      simpa using hne
    rw [List.eraseDups_cons, hfilter, ih hxs]

/-- Repetitions may be dropped from the front first. -/
theorem eraseDups_eraseDups_append (xs ys : List α) :
    (xs.eraseDups ++ ys).eraseDups = (xs ++ ys).eraseDups := by
  have hremove : ys.removeAll xs.eraseDups = ys.removeAll xs := by
    refine List.filter_congr fun y _ => ?_
    simp only [List.elem_eq_mem, List.mem_eraseDups]
  rw [List.eraseDups_append, List.eraseDups_append, hremove, eraseDups_of_nodup (nodup_eraseDups xs)]

end EraseDups

/-! ### Attributes and entries in stages -/

namespace Attributes

variable {merged whole whole' : Attributes} {maps more : List Attributes}

/-- Only one map unites some maps. -/
theorem Unites.unique (h : whole.Unites maps) (h' : whole'.Unites maps) : whole = whole' :=
  TextMap.ext fun name => (h name).trans (h' name).symm

theorem Unites.mem_keys_iff (h : merged.Unites maps) {name : String} :
    name ∈ merged.keys ↔ ∃ a ∈ maps, name ∈ a.keys := by
  rw [TextMap.mem_keys_iff, h name]
  split
  next hname => exact iff_of_true ⟨_, rfl⟩ hname
  next hname => exact iff_of_false (fun ⟨_, hsome⟩ => by cases hsome) hname

/-- The union of some maps stands for them in a union with more maps. -/
theorem Unites.stage (h : merged.Unites maps) :
    whole.Unites (merged :: more) ↔ whole.Unites (maps ++ more) := by
  refine forall_congr' fun name => ?_
  have hname : (∃ a ∈ merged :: more, name ∈ a.keys) ↔ ∃ a ∈ maps ++ more, name ∈ a.keys := by
    simp only [List.mem_cons, List.mem_append, or_and_right, exists_or, exists_eq_left,
      h.mem_keys_iff]
  have hvalues : ((merged :: more).flatMap fun a => valuesOf a name).eraseDups =
      ((maps ++ more).flatMap fun a => valuesOf a name).eraseDups := by
    rw [List.flatMap_cons, h.valuesOf_eq, eraseDups_eraseDups_append, List.flatMap_append]
  simp only [hname, hvalues]

end Attributes

namespace TextMap

variable {β : Type} {m whole whole' : TextMap β} {maps more : List (TextMap β)}

/-- Only one map has the last entries of some maps. -/
theorem TakesLast.unique (h : whole.TakesLast maps) (h' : whole'.TakesLast maps) :
    whole = whole' :=
  ext fun key => (h key).trans (h' key).symm

/-- The map of the last entries of some maps stands for them before more maps. -/
theorem TakesLast.stage (h : m.TakesLast maps) :
    whole.TakesLast (m :: more) ↔ whole.TakesLast (maps ++ more) := by
  refine forall_congr' fun key => ?_
  have hlast : ((m :: more).filterMap fun n => n.get? key).getLast? =
      ((maps ++ more).filterMap fun n => n.get? key).getLast? := by
    rw [← List.singleton_append, List.filterMap_append, List.filterMap_append,
      List.getLast?_append, List.getLast?_append, ← h key]
    cases hget : m.get? key <;> simp [hget]
  rw [hlast]

end TextMap

/-! ### Composites in stages -/

namespace Outcome

variable {o o' whole : Outcome} {as first second : List Authentication}
  {principal principal' : Principal} {now built : Instant} {service service' : Option Service}
  {presented presented' : Bool}

/-- What an outcome is put together from determines it. -/
theorem Composes.unique (h : o.Composes as principal now service presented)
    (h' : o'.Composes as principal now service presented) : o = o' := by
  obtain ⟨⟨p, credentials, successes, failures, attributes, date⟩, s, provided⟩ := o
  obtain ⟨⟨p', credentials', successes', failures', attributes', date'⟩, s', provided'⟩ := o'
  obtain rfl : p = p' := h.principal.trans h'.principal.symm
  obtain rfl : credentials = credentials' := h.credentials.trans h'.credentials.symm
  obtain rfl : successes = successes' := h.successes.unique h'.successes
  obtain rfl : failures = failures' := h.failures.unique h'.failures
  obtain rfl : attributes = attributes' := h.attributes.unique h'.attributes
  obtain rfl : date = date' := h.date.trans h'.date.symm
  obtain rfl : s = s' := h.service.trans h'.service.symm
  obtain rfl : provided = provided' := h.credentialProvided.trans h'.credentialProvided.symm
  rfl

/-- A composite authentication stands for the authentications that it is put together from. -/
theorem Composes.stage (h : o.Composes first principal built service presented)
    (hwhole : whole.Composes (o.authentication :: second) principal' now service' presented') :
    whole.Composes (first ++ second) principal' now service' presented' where
  principal := hwhole.principal
  attributes := by
    rw [List.map_append]
    exact h.attributes.stage.1 hwhole.attributes
  credentials := by
    rw [hwhole.credentials, List.flatMap_cons, h.credentials, List.flatMap_append]
  successes := by
    rw [List.map_append]
    exact h.successes.stage.1 hwhole.successes
  failures := by
    rw [List.map_append]
    exact h.failures.stage.1 hwhole.failures
  date := hwhole.date
  service := hwhole.service
  credentialProvided := hwhole.credentialProvided

end Outcome

namespace Transaction

variable {as first second : List Authentication} {now built : Instant}
  {service service' : Option Service}

/-- The transaction in which some authentications and then some credentials were collected. -/
def gathered (as : List Authentication) (cs : List Credential) : Transaction :=
  start.performAll (as.map (fun a => .collect (some a)) ++ cs.map fun c => .present (some c))

/-- Different authentications are all kept, and so are all credentials. -/
theorem gathered_of_nodup (h : as.Nodup) (cs : List Credential) : gathered as cs = ⟨as, cs⟩ := by
  have hnone : cs.filterMap (fun _ => (none : Option Authentication)) = [] :=
    List.filterMap_eq_nil_iff.2 fun _ _ => rfl
  have hnone' : as.filterMap (fun _ => (none : Option Credential)) = [] :=
    List.filterMap_eq_nil_iff.2 fun _ _ => rfl
  rw [gathered, performAll_start]
  simp only [collected, presented, List.filterMap_append, List.filterMap_map, Function.comp_def,
    Call.authentication?, Call.credential?, List.filterMap_some, hnone, hnone', List.append_nil,
    List.nil_append, eraseDups_of_nodup h]

/-- The principal that is elected in the usual way: the first one, with the attributes of all. -/
def usualPrincipal (as : List Authentication) (h : as ≠ []) : Principal :=
  ⟨(as.head h).principal.id, principalAttributes as⟩

theorem exists_outcome?_usual (hne : as ≠ []) (cs : List Credential) (now : Instant)
    (service : Option Service) :
    ∃ o, outcome? ⟨as, cs⟩ .first now service = .ok (some o) ∧
      o.Composes as (usualPrincipal as hne) now service (!cs.isEmpty) := by
  refine exists_outcome?_of_ok (t := ⟨as, cs⟩) hne ?_ now service
  cases as with
  | nil => exact absurd rfl hne
  | cons a as => rfl

/-- A composite has the first principal, with all attributes, so it elects what its authentications
elect. -/
theorem usualPrincipal_stage (hne : first ≠ []) {o : Outcome} {presented : Bool}
    (h : o.Composes first (usualPrincipal first hne) built service presented) :
    usualPrincipal (o.authentication :: second) (List.cons_ne_nil _ _) =
      usualPrincipal (first ++ second) (List.append_ne_nil_of_left_ne_nil hne second) := by
  have hattributes : o.authentication.principal.attributes.Unites
      (first.map fun a => a.principal.attributes) := by
    rw [h.principal]
    exact unites_principalAttributes first
  have hmerged : principalAttributes (o.authentication :: second) =
      principalAttributes (first ++ second) := by
    have hstaged := unites_principalAttributes (o.authentication :: second)
    have hdirect := unites_principalAttributes (first ++ second)
    rw [List.map_cons, hattributes.stage, ← List.map_append] at hstaged
    exact hstaged.unique hdirect
  rw [usualPrincipal, usualPrincipal, hmerged, List.head_cons, h.principal,
    List.head_append_of_ne_nil hne]
  rfl

/-- A first stage has an outcome. Collecting its composite authentication and then further
authentications leads to the same outcome as collecting all authentications in one transaction, at
the same time, with the same credentials and for the same service. So the composite alone leads to
itself again. -/
theorem outcome?_staged (hne : first ≠ []) (hnodup : (first ++ second).Nodup)
    (cs₀ cs : List Credential) (built now : Instant) (service₀ service : Option Service) :
    ∃ o, (gathered first cs₀).outcome? .first built service₀ = .ok (some o) ∧
      (o.authentication ∉ second →
        (gathered (o.authentication :: second) cs).outcome? .first now service =
          (gathered (first ++ second) cs).outcome? .first now service) ∧
      (gathered [o.authentication] cs₀).outcome? .first built service₀ = .ok (some o) := by
  obtain ⟨hfirst, hsecond, -⟩ := List.nodup_append.1 hnodup
  obtain ⟨o, ho, hcomposes⟩ := exists_outcome?_usual hne cs₀ built service₀
  have hstaged : ∀ {second} (cs : List Credential) (now : Instant) (service : Option Service),
      outcome? ⟨o.authentication :: second, cs⟩ .first now service =
        outcome? ⟨first ++ second, cs⟩ .first now service := by
    intro second cs now service
    obtain ⟨staged, hstaged, hcomposed⟩ :=
      exists_outcome?_usual (List.cons_ne_nil o.authentication second) cs now service
    obtain ⟨direct, hdirect, hcomposed'⟩ := exists_outcome?_usual
      (List.append_ne_nil_of_left_ne_nil hne second) cs now service
    -- Both are put together from the same authentications for the same principal.
    rw [usualPrincipal_stage hne hcomposes] at hcomposed
    rw [hstaged, hdirect, (hcomposes.stage hcomposed).unique hcomposed']
  refine ⟨o, by rw [gathered_of_nodup hfirst, ho], fun hnew => ?_, ?_⟩
  · rw [gathered_of_nodup (List.nodup_cons.2 ⟨hnew, hsecond⟩), gathered_of_nodup hnodup, hstaged]
  · rw [gathered_of_nodup (List.nodup_singleton _), hstaged, List.append_nil, ho]

/-- A password and a code in a first stage, and then a token. The password comes with a repeated
value, the code and the token with values that were there before, and each report of the handler
replaces the one before. -/
theorem outcome?_staged_stepUp :
    let now : Instant := ⟨⟨2024, 1, 1, by decide⟩, 0, 0, by decide, by decide⟩
    let step (user message : String) (methods : List String) : Authentication :=
      ⟨⟨user, .ofList [("mail", .single user)]⟩, [⟨user, "token"⟩], .empty,
        .ofList [("ldap", message)], .ofList [("amr", .multi methods)], now⟩
    let first := [step "alice" "slow" ["pwd", "pwd"], step "alice2" "down" ["otp", "pwd"]]
    let second := [step "bob" "gone" ["hwk", "otp"]]
    ∃ o, (gathered first []).outcome? .first now none = .ok (some o) ∧
      (gathered (o.authentication :: second) [.token "t" "x"]).outcome? .first now none =
        (gathered (first ++ second) [.token "t" "x"]).outcome? .first now none ∧
      o.authentication.attributes.get? "amr" = some (.multi ["pwd", "otp"]) := by
  intro now step first second
  obtain ⟨o, ho, hstaged, -⟩ := @outcome?_staged first second (List.cons_ne_nil _ _) (by decide) []
    [.token "t" "x"] now now none none
  have houtcome : (gathered first []).outcome? .first now none =
      .ok (some ⟨⟨⟨"alice", .ofList [("mail", .multi ["alice", "alice2"])]⟩,
        [⟨"alice", "token"⟩, ⟨"alice2", "token"⟩], .empty, .ofList [("ldap", "down")],
        .ofList [("amr", .multi ["pwd", "otp"])], now⟩, none, false⟩) := by decide
  rw [houtcome] at ho
  obtain rfl := Option.some.inj (Except.ok.inj ho)
  exact ⟨_, houtcome, hstaged (by decide), by decide⟩

end Transaction

end SignOn
