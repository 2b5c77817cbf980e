import SignOn.Auth.Transaction

/-!
# The composite authentication

Whatever a caller collects, looks at and puts together, and in whatever order, a transaction holds
the different authentications that were collected, in the order in which each came first. Its
outcome is put together from them in four ways: values of attributes are united, each of them once,
in the order in which it came first; of the reports and refusals under the name of a handler the
last one counts; credentials are listed one after the other; and the principal is elected.

## Main definitions

* `Attributes.Unites` - a map has the values of several maps, each of them once
* `TextMap.TakesLast` - a map has the entries of several maps, the last one of each key
* `Transaction.Call`, `Transaction.performAll` - what a caller does with a transaction
* `Transaction.collected` - the different authentications that were collected
* `Outcome.Composes` - an outcome is put together from authentications

## Main results

* `Transaction.performAll_start` - what a transaction holds after any calls
* `Transaction.composite_of_calls` - the outcome after any calls
-/

namespace SignOn

/-! ### Lists without repetitions -/

section EraseDups

variable {α : Type} [DecidableEq α]

/-- One more element is one more without repetitions, unless it was there before. -/
theorem eraseDups_concat (xs : List α) (x : α) :
    (xs ++ [x]).eraseDups = if x ∈ xs then xs.eraseDups else xs.eraseDups ++ [x] := by
  rw [List.eraseDups_append]
  by_cases hx : x ∈ xs
  · simp [List.removeAll, hx]
  · simp [List.removeAll, hx, List.eraseDups_cons]

theorem addNew_eraseDups (xs : List String) (x : String) :
    addNew xs.eraseDups x = (xs ++ [x]).eraseDups := by
  simp only [addNew, eraseDups_concat, List.contains_iff_mem, List.mem_eraseDups]

/-- A union drops the values that repeat earlier ones. -/
theorem union_eraseDups (xs ys : List String) : union xs.eraseDups ys = (xs ++ ys).eraseDups := by
  unfold union
  induction ys generalizing xs with
  | nil => rw [List.foldl_nil, List.append_nil]
  | cons y ys ih => rw [List.foldl_cons, addNew_eraseDups, ih, List.append_assoc,
      List.singleton_append]

end EraseDups

/-! ### United attributes -/

namespace Attributes

variable {merged : Attributes} {maps : List Attributes}

/-- A map has every name that one of several maps has, and under it a list of all values that stand
there under the name, in their order, without those that repeat earlier ones. There is only one such
map. -/
def Unites (merged : Attributes) (maps : List Attributes) : Prop :=
  ∀ name, merged.get? name = if ∃ a ∈ maps, name ∈ a.keys then
    some (.multi (maps.flatMap fun a => valuesOf a name).eraseDups) else none

/-- A map that has not the name has no values under it. -/
theorem valuesOf_of_not_mem {a : Attributes} {name : String} (h : name ∉ a.keys) :
    valuesOf a name = [] := by
  rw [valuesOf, TextMap.get?_eq_none_iff.2 h]
  rfl

theorem Unites.valuesOf_eq (h : merged.Unites maps) (name : String) :
    valuesOf merged name = (maps.flatMap fun a => valuesOf a name).eraseDups := by
  by_cases hname : ∃ a ∈ maps, name ∈ a.keys
  · rw [valuesOf, h name, if_pos hname]
    rfl
  · have hnone : maps.flatMap (fun a => valuesOf a name) = [] := by
      refine List.flatMap_eq_nil_iff.2 fun a ha => valuesOf_of_not_mem fun hmem => ?_
      exact hname ⟨a, ha, hmem⟩
    rw [valuesOf, h name, if_neg hname, hnone]
    rfl

theorem unites_nil : Unites .empty [] := by
  intro name
  rw [if_neg]
  · rfl
  · rintro ⟨a, ha, -⟩
    cases ha

/-- Merging one map more unites it with the others. -/
theorem Unites.merge (h : merged.Unites maps) (a : Attributes) :
    (merged.merge a).Unites (maps ++ [a]) := by
  intro name
  rw [get?_merge, h.valuesOf_eq, List.flatMap_append, List.flatMap_singleton]
  cases hvalue : a.get? name with
  | none =>
    -- The map adds neither the name nor values.
    have hname : name ∉ a.keys := by
      rw [TextMap.mem_keys_iff, hvalue]
      rintro ⟨value, hsome⟩
      cases hsome
    have hsame : (∃ b ∈ maps ++ [a], name ∈ b.keys) ↔ ∃ b ∈ maps, name ∈ b.keys := by
      simp only [List.mem_append, List.mem_singleton, or_and_right, exists_or, exists_eq_left,
        hname, or_false]
    simp only [hsame, valuesOf_of_not_mem hname, List.append_nil, h name]
    split <;> rfl
  | some value =>
    have hname : name ∈ a.keys := TextMap.mem_keys_iff.2 ⟨value, hvalue⟩
    have hvalues : valuesOf a name = value.values := by
      rw [valuesOf, hvalue]
      rfl
    rw [if_pos ⟨a, List.mem_append_right _ (List.mem_singleton.2 rfl), hname⟩, hvalues]
    exact congrArg (fun values => some (AttributeValue.multi values)) (union_eraseDups _ _)

theorem Unites.foldl_merge (h : merged.Unites maps) (more : List Attributes) :
    (more.foldl Attributes.merge merged).Unites (maps ++ more) := by
  induction more generalizing merged maps with
  | nil => rwa [List.append_nil]
  | cons a more ih =>
    have hall := ih (h.merge a)
    rwa [List.append_assoc, List.singleton_append] at hall

end Attributes

/-! ### Last entries -/

namespace TextMap

variable {β : Type} {m : TextMap β} {maps : List (TextMap β)}

/-- A map has under every key what the last of several maps has there that has the key. -/
def TakesLast (m : TextMap β) (maps : List (TextMap β)) : Prop :=
  ∀ key, m.get? key = (maps.filterMap fun n => n.get? key).getLast?

/-- Inserting the entries of a map puts them before those that were there. -/
theorem get?_insertMany_entries (m n : TextMap β) (key : String) :
    (m.insertMany n.entries).get? key = (n.get? key).or (m.get? key) := by
  have hentries := congrArg (fun map : TextMap β => map.get? key) (ofList_entries n)
  simp only [ofList, get?_insertMany, get?_empty, Option.or_none] at hentries
  rw [get?_insertMany, hentries]

theorem TakesLast.insertMany (h : m.TakesLast maps) (n : TextMap β) :
    (m.insertMany n.entries).TakesLast (maps ++ [n]) := by
  intro key
  rw [get?_insertMany_entries, h key, List.filterMap_append, List.getLast?_append]
  cases hget : n.get? key <;> simp [hget]

end TextMap

/-! ### Transactions -/

namespace Transaction

variable {as : List Authentication}

theorem unites_principalAttributes (as : List Authentication) :
    (principalAttributes as).Unites (as.map fun a => a.principal.attributes) := by
  have hunites := Attributes.unites_nil.foldl_merge (as.map fun a => a.principal.attributes)
  rwa [List.foldl_map] at hunites

theorem unites_authenticationAttributes (as : List Authentication) :
    (authenticationAttributes as).Unites (as.map Authentication.attributes) := by
  have hunites := Attributes.unites_nil.foldl_merge (as.map Authentication.attributes)
  rwa [List.foldl_map] at hunites

/-- What a draft has of the history of some authentications. -/
structure Records (d : Draft) (as : List Authentication) : Prop where
  credentials : d.credentials = as.flatMap Authentication.credentials
  successes : d.successes.TakesLast (as.map Authentication.successes)
  failures : d.failures.TakesLast (as.map Authentication.failures)

theorem Records.addHistory {d : Draft} (h : Records d as) (a : Authentication) :
    Records (addHistory d a) (as ++ [a]) where
  credentials := by
    rw [List.flatMap_append, List.flatMap_singleton, ← h.credentials]
    rfl
  successes := by
    rw [List.map_append]
    exact h.successes.insertMany a.successes
  failures := by
    rw [List.map_append]
    exact h.failures.insertMany a.failures

theorem records_history (as : List Authentication) : Records (history as) as := by
  -- The induction starts from any draft, since the authentications are added from the left.
  have hall : ∀ (before : List Authentication) {d : Draft}, Records d before →
      ∀ after : List Authentication,
        Records (after.foldl Transaction.addHistory d) (before ++ after) := by
    intro before d h after
    induction after generalizing d before with
    | nil => rwa [List.append_nil]
    | cons a after ih =>
      have hrest := ih (before ++ [a]) (h.addHistory a)
      rwa [List.append_assoc, List.singleton_append] at hrest
  exact hall [] ⟨rfl, fun _ => rfl, fun _ => rfl⟩ as

end Transaction

/-- An outcome is put together from authentications in the order in which they were collected. -/
structure Outcome.Composes (o : Outcome) (as : List Authentication) (principal : Principal)
    (now : Instant) (service : Option Service) (presented : Bool) : Prop where
  principal : o.authentication.principal = principal
  attributes : o.authentication.attributes.Unites (as.map Authentication.attributes)
  credentials : o.authentication.credentials = as.flatMap Authentication.credentials
  successes : o.authentication.successes.TakesLast (as.map Authentication.successes)
  failures : o.authentication.failures.TakesLast (as.map Authentication.failures)
  date : o.authentication.date = now
  service : o.service = service
  credentialProvided : o.credentialProvided = presented

namespace Transaction

/-! ### Calls -/

/-- What a caller does with a transaction. There may be nothing to collect or to present, and what
was collected may be looked at or put together at any time. -/
inductive Call where
  | collect (a : Option Authentication)
  | present (c : Option Credential)
  | look
  | outcome (elect : Election) (now : Instant) (service : Option Service)

/-- The authentication that a call collects. -/
def Call.authentication? : Call → Option Authentication
  | collect a => a
  | present _ | look | outcome _ _ _ => none

/-- The credential that a call presents. -/
def Call.credential? : Call → Option Credential
  | present c => c
  | collect _ | look | outcome _ _ _ => none

/-- The transaction after a call. -/
def perform (t : Transaction) : Call → Transaction
  | .collect (some a) => t.collect a
  | .present (some c) => t.present c
  | .collect none | .present none | .look | .outcome _ _ _ => t

/-- The transaction after some calls. -/
def performAll (t : Transaction) (calls : List Call) : Transaction := calls.foldl perform t

/-- The different authentications that were collected, in the order in which each came first. -/
def collected (calls : List Call) : List Authentication :=
  (calls.filterMap Call.authentication?).eraseDups

/-- The credentials that were presented. -/
def presented (calls : List Call) : List Credential := calls.filterMap Call.credential?

theorem collect_eraseDups (as : List Authentication) (cs : List Credential) (a : Authentication) :
    collect ⟨as.eraseDups, cs⟩ a = ⟨(as ++ [a]).eraseDups, cs⟩ := by
  simp only [collect, eraseDups_concat, List.mem_eraseDups]
  split <;> rfl

/-- A call adds what it collects or presents, and nothing else. -/
theorem perform_eraseDups (as : List Authentication) (cs : List Credential) (call : Call) :
    perform ⟨as.eraseDups, cs⟩ call =
      ⟨(as ++ call.authentication?.toList).eraseDups, cs ++ call.credential?.toList⟩ := by
  match call with
  | .collect (some a) =>
    rw [perform, collect_eraseDups]
    simp [Call.authentication?, Call.credential?]
  | .present (some c) => simp [perform, present, Call.authentication?, Call.credential?]
  | .collect none | .present none | .look | .outcome _ _ _ =>
    simp [perform, Call.authentication?, Call.credential?]

/-- After any calls, a transaction holds the different authentications that were collected, and the
credentials that were presented. -/
theorem performAll_start (calls : List Call) :
    start.performAll calls = ⟨collected calls, presented calls⟩ := by
  -- What was collected before may repeat; the transaction holds it without repetitions.
  have hall : ∀ (as : List Authentication) (cs : List Credential),
      performAll ⟨as.eraseDups, cs⟩ calls =
        ⟨(as ++ calls.filterMap Call.authentication?).eraseDups, cs ++ presented calls⟩ := by
    induction calls with
    | nil => intro as cs; simp [performAll, presented]
    | cons call calls ih =>
      intro as cs
      rw [performAll, List.foldl_cons, perform_eraseDups]
      refine (ih _ _).trans ?_
      cases hauthentication : call.authentication? <;> cases hcredential : call.credential? <;>
        simp [presented, hauthentication, hcredential]
  exact hall [] []

/-! ### Outcomes -/

variable {elect : Election} {now : Instant} {service : Option Service} {t : Transaction}

theorem outcome?_of_empty (h : t.authentications = []) :
    t.outcome? elect now service = .ok none := by
  rw [outcome?, composite?, h]
  rfl

theorem outcome?_of_error (h : t.authentications ≠ []) {e : AuthError}
    (helect : elect t.authentications (principalAttributes t.authentications) = .error e) :
    t.outcome? elect now service = .error e := by
  simp only [outcome?, composite?, List.isEmpty_iff, h, if_false, helect]
  rfl

theorem exists_outcome?_of_ok (h : t.authentications ≠ []) {principal : Principal}
    (helect : elect t.authentications (principalAttributes t.authentications) = .ok principal)
    (now : Instant) (service : Option Service) :
    ∃ o, t.outcome? elect now service = .ok (some o) ∧
      o.Composes t.authentications principal now service (!t.credentials.isEmpty) := by
  have hhistory := records_history t.authentications
  refine ⟨⟨⟨principal, (history t.authentications).credentials,
      (history t.authentications).successes, (history t.authentications).failures,
      authenticationAttributes t.authentications, now⟩, service, !t.credentials.isEmpty⟩, ?_, ?_⟩
  · simp only [outcome?, composite?, List.isEmpty_iff, h, if_false, helect]
    rfl
  · exact
      { principal := rfl, date := rfl, service := rfl, credentialProvided := rfl
        attributes := unites_authenticationAttributes _, credentials := hhistory.credentials
        successes := hhistory.successes, failures := hhistory.failures }

theorem outcome?_eq_none_iff :
    t.outcome? elect now service = .ok none ↔ t.authentications = [] := by
  refine ⟨fun hnone => Decidable.byContradiction fun h => ?_, outcome?_of_empty⟩
  cases helect : elect t.authentications (principalAttributes t.authentications) with
  | error e =>
    rw [outcome?_of_error h helect] at hnone
    cases hnone
  | ok principal =>
    obtain ⟨o, ho, -⟩ := exists_outcome?_of_ok h helect now service
    rw [ho] at hnone
    cases hnone

/-- The only failure of an outcome is that of the election. -/
theorem outcome?_eq_error_iff {e : AuthError} :
    t.outcome? elect now service = .error e ↔ t.authentications ≠ [] ∧
      elect t.authentications (principalAttributes t.authentications) = .error e := by
  refine ⟨fun hfails => ?_, fun h => outcome?_of_error h.1 h.2⟩
  have h : t.authentications ≠ [] := by
    intro h
    rw [outcome?_of_empty h] at hfails
    cases hfails
  refine ⟨h, ?_⟩
  cases helect : elect t.authentications (principalAttributes t.authentications) with
  | error e' =>
    rw [outcome?_of_error h helect] at hfails
    rw [Except.error.inj hfails]
  | ok principal =>
    obtain ⟨o, ho, -⟩ := exists_outcome?_of_ok h helect now service
    rw [ho] at hfails
    cases hfails

/-- The usual strategy elects a principal wherever there is an authentication. -/
theorem first_ne_error (h : as ≠ []) (attributes : Attributes) (e : AuthError) :
    Election.first as attributes ≠ .error e := by
  cases as with
  | nil => exact absurd rfl h
  | cons a as => exact fun hfails => by cases hfails

/-- After any calls, the strategy is asked with the different authentications that were collected
and the united attributes of their principals. There is no outcome exactly if nothing was collected,
whatever was presented; the outcome fails exactly if the strategy does, and never with the usual
one; otherwise it is put together from all that was collected, for the principal that is elected. -/
theorem composite_of_calls (calls : List Call) (elect : Election) (now : Instant)
    (service : Option Service) :
    let t := start.performAll calls
    let as := collected calls
    ∃ merged : Attributes, merged.Unites (as.map fun a => a.principal.attributes) ∧
      (t.outcome? elect now service = .ok none ↔ as = []) ∧
      (∀ e, t.outcome? elect now service = .error e ↔ as ≠ [] ∧ elect as merged = .error e) ∧
      (∀ principal, as ≠ [] → elect as merged = .ok principal → ∃ o,
        t.outcome? elect now service = .ok (some o) ∧
          o.Composes as principal now service (!(presented calls).isEmpty)) ∧
      ∀ e, t.outcome? .first now service ≠ .error e := by
  intro t as
  have ht : t = ⟨as, presented calls⟩ := performAll_start calls
  rw [ht]
  refine ⟨principalAttributes as, unites_principalAttributes as, outcome?_eq_none_iff,
    fun e => outcome?_eq_error_iff, fun principal h helect => ?_, fun e hfails => ?_⟩
  · exact @exists_outcome?_of_ok elect ⟨as, presented calls⟩ h principal helect now service
  · obtain ⟨h, hfirst⟩ := outcome?_eq_error_iff.1 hfails
    exact first_ne_error h _ e hfirst

/-- A password and then a code. The password comes a second time, nothing is presented, and the last
principal is elected. -/
theorem composite_of_calls_twoSteps :
    let now : Instant := ⟨⟨2024, 1, 1, by decide⟩, 0, 0, by decide, by decide⟩
    let step (user message : String) (methods : List String) : Authentication :=
      ⟨.named user, [], .empty, .ofList [("ldap", message)], .ofList [("amr", .multi methods)], now⟩
    let password := step "alice" "slow" ["pwd", "pwd"]
    let code := step "alice2" "down" ["otp", "pwd"]
    let calls : List Call := [.present none, .collect (some password), .look, .collect (some code),
      .collect none, .outcome .first now none, .collect (some password)]
    ∃ o, (start.performAll calls).outcome? .last now none = .ok (some o) ∧
      o.authentication.principal = .named "alice2" ∧ o.credentialProvided = false ∧
      o.authentication.attributes.get? "amr" = some (.multi ["pwd", "otp"]) ∧
      o.authentication.failures.get? "ldap" = some "down" := by
  intro now step password code calls
  have hcollected : collected calls = [password, code] := by decide
  obtain ⟨merged, -, -, -, hcomposes, -⟩ := composite_of_calls calls .last now none
  rw [hcollected] at hcomposes
  obtain ⟨o, houtcome, ho⟩ := hcomposes (.named "alice2") (List.cons_ne_nil _ _) rfl
  refine ⟨o, houtcome, ho.principal, ho.credentialProvided, ?_, ?_⟩
  · rw [ho.attributes]
    decide
  · rw [ho.failures]
    decide

end Transaction

end SignOn
