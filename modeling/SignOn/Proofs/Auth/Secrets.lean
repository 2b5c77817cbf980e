import Mathlib.Data.List.Forall2
import SignOn.Proofs.Auth.Composite

/-!
# Secrets

A transaction keeps the credentials that were presented, with their secrets, until the login is
over. Passwords and tokens do not flow into anything else that a caller sees of it: two runs that
differ in secrets only show the same after every call, whatever strategy is asked, at any time. Of
the credentials themselves, an outcome shows only whether there was one.

## Main definitions

* `Credential.Alike` - two credentials are of the same kind and for the same identifier
* `Transaction.Call.Alike`, `Transaction.Alike` - calls and transactions differ in secrets only
* `Transaction.Sight` - what is seen of a transaction, except for its credentials
* `Transaction.observe` - what is seen during a run

## Main results

* `Transaction.Alike.perform`, `Transaction.Alike.observe_eq` - what a call and a run preserve
* `Transaction.secrets_unseen` - two runs that differ in secrets only show the same
-/

namespace SignOn

/-! ### Credentials -/

namespace Credential

/-- Two credentials are of the same kind and for the same identifier; their secrets may differ. -/
inductive Alike : Credential → Credential → Prop
  | usernamePassword (username password password' : String) :
      Alike (usernamePassword username password) (usernamePassword username password')
  | oneTimePassword (id token token' : String) :
      Alike (oneTimePassword id token) (oneTimePassword id token')
  | token (id token token' : String) : Alike (.token id token) (.token id token')

variable {c c' : Credential}

theorem Alike.refl (c : Credential) : c.Alike c := by
  cases c with
  | usernamePassword username password => exact .usernamePassword username password password
  | oneTimePassword id token => exact .oneTimePassword id token token
  | token id token => exact .token id token token

theorem Alike.summary_eq (h : c.Alike c') : c.summary = c'.summary := by
  cases h <;> rfl

/-- What a credential is shown as is read off its summary. -/
theorem Alike.diagnosis_eq (h : c.Alike c') : c.diagnosis = c'.diagnosis := by
  obtain ⟨hid, hkind⟩ := CredentialSummary.mk.inj h.summary_eq
  rw [diagnosis, diagnosis, hid, hkind]

theorem map_eq_of_alike {β : Type} {f : Credential → β}
    (hf : ∀ {c c' : Credential}, c.Alike c' → f c = f c') {cs cs' : List Credential}
    (h : List.Forall₂ Alike cs cs') : cs.map f = cs'.map f := by
  induction h with
  | nil => rfl
  | cons hc _ ih => rw [List.map_cons, List.map_cons, hf hc, ih]

end Credential

namespace Transaction

/-! ### Calls and transactions that differ in secrets only -/

/-- Two calls are the same, or present credentials that differ in secrets only. -/
inductive Call.Alike : Call → Call → Prop
  | same (call : Call) : Alike call call
  | present {c c' : Credential} (h : c.Alike c') : Alike (.present (some c)) (.present (some c'))

/-- Two transactions differ in the secrets of their credentials only. -/
structure Alike (t t' : Transaction) : Prop where
  authentications : t.authentications = t'.authentications
  credentials : List.Forall₂ Credential.Alike t.credentials t'.credentials

variable {t t' : Transaction} {call call' : Call} {calls calls' : List Call}

theorem Alike.refl (t : Transaction) : t.Alike t :=
  ⟨rfl, List.forall₂_same.2 fun c _ => Credential.Alike.refl c⟩

theorem Alike.collect (h : t.Alike t') (a : Authentication) :
    (t.collect a).Alike (t'.collect a) := by
  unfold Transaction.collect
  rw [h.authentications]
  split
  · exact h
  · exact ⟨rfl, h.credentials⟩

theorem Alike.present (h : t.Alike t') {c c' : Credential} (hc : c.Alike c') :
    (t.present c).Alike (t'.present c') :=
  ⟨h.authentications, List.rel_append h.credentials (.cons hc .nil)⟩

/-- A call compares no credentials, so it leaves transactions that differ in secrets only. -/
theorem Alike.perform (h : t.Alike t') (hcall : call.Alike call') :
    (t.perform call).Alike (t'.perform call') := by
  cases hcall with
  | present hc => exact h.present hc
  | same =>
    match call with
    | .collect (some a) => exact h.collect a
    | .present (some c) => exact h.present (.refl c)
    | .collect none | .present none | .look | .outcome _ _ _ => exact h

theorem Alike.performAll (h : t.Alike t') (hcalls : List.Forall₂ Call.Alike calls calls') :
    (t.performAll calls).Alike (t'.performAll calls') := by
  induction hcalls generalizing t t' with
  | nil => exact h
  | cons hcall _ ih => exact ih (h.perform hcall)

/-! ### What is seen -/

/-- What is seen of a transaction, except for its credentials: also what any strategy makes of it,
at any time and for any service. -/
structure Sight where
  initial? : Option Authentication
  authentications : List Authentication
  isEmpty : Bool
  diagnosis : String
  outcome? : Election → Instant → Option Service → Except AuthError (Option Outcome)

/-- What is seen of a transaction, except for its credentials. -/
def sight (t : Transaction) : Sight where
  initial? := t.initial?
  authentications := t.authentications
  isEmpty := t.isEmpty
  diagnosis := t.diagnosis
  outcome? := fun elect now service => t.outcome? elect now service

/-- What is seen before the first of some calls and after each of them. -/
def observe (t : Transaction) : List Call → List Sight
  | [] => [t.sight]
  | call :: calls => t.sight :: (t.perform call).observe calls

/-- Of the credentials, an outcome shows only whether there is one. -/
theorem outcome?_congr (ha : t.authentications = t'.authentications)
    (hc : t.credentials = [] ↔ t'.credentials = []) (elect : Election) (now : Instant)
    (service : Option Service) : t.outcome? elect now service = t'.outcome? elect now service := by
  have hcomposite : t.composite? elect now = t'.composite? elect now := by
    rw [composite?, composite?, ha]
  have hempty : t.credentials.isEmpty = t'.credentials.isEmpty := by
    rw [Bool.eq_iff_iff, List.isEmpty_iff, List.isEmpty_iff, hc]
  rw [outcome?, outcome?, hcomposite, hempty]

theorem Alike.sight_eq (h : t.Alike t') : t.sight = t'.sight := by
  have hlength : t.credentials.length = t'.credentials.length := h.credentials.length_eq
  have hnil : t.credentials = [] ↔ t'.credentials = [] := by
    rw [← List.length_eq_zero_iff, hlength, List.length_eq_zero_iff]
  have houtcome : t.outcome? = t'.outcome? := by
    funext elect now service
    exact outcome?_congr h.authentications hnil elect now service
  simp only [sight, initial?, isEmpty, diagnosis, h.authentications, hlength, houtcome]

/-- During runs that differ in secrets only, the same is seen. -/
theorem Alike.observe_eq (h : t.Alike t') (hcalls : List.Forall₂ Call.Alike calls calls') :
    t.observe calls = t'.observe calls' := by
  induction hcalls generalizing t t' with
  | nil => rw [observe, observe, h.sight_eq]
  | cons hcall _ ih => rw [observe, observe, h.sight_eq, ih (h.perform hcall)]

/-- Two runs that differ in secrets only show the same before and after every call, and the
credentials that were presented have the same summaries and are shown as the same texts. Runs that
collect the same authentications have the same outcomes whatever they present, if both present
nothing or both something. -/
theorem secrets_unseen (calls calls' : List Call) :
    (List.Forall₂ Call.Alike calls calls' →
      start.observe calls = start.observe calls' ∧
      (presented calls).map Credential.summary = (presented calls').map Credential.summary ∧
      (presented calls).map Credential.diagnosis = (presented calls').map Credential.diagnosis) ∧
    (collected calls = collected calls' → (presented calls = [] ↔ presented calls' = []) →
      ∀ (elect : Election) (now : Instant) (service : Option Service),
        (start.performAll calls).outcome? elect now service =
          (start.performAll calls').outcome? elect now service) := by
  refine ⟨fun hcalls => ?_, fun hcollected hpresented elect now service => ?_⟩
  · have hcredentials := ((Alike.refl start).performAll hcalls).credentials
    rw [performAll_start, performAll_start] at hcredentials
    exact ⟨(Alike.refl start).observe_eq hcalls,
      Credential.map_eq_of_alike Credential.Alike.summary_eq hcredentials,
      Credential.map_eq_of_alike Credential.Alike.diagnosis_eq hcredentials⟩
  · rw [performAll_start, performAll_start]
    exact outcome?_congr hcollected hpresented elect now service

/-- A password, mistyped in one run, and then a code. The runs show the same although they presented
different credentials, and so does the outcome if a token is presented instead. -/
theorem secrets_unseen_mistyped :
    let now : Instant := ⟨⟨2024, 1, 1, by decide⟩, 0, 0, by decide, by decide⟩
    let login : Authentication :=
      ⟨.named "alice", [⟨"alice", "username_password"⟩], .empty, .empty, .empty, now⟩
    let calls (password code : String) : List Call :=
      [.present (some (.usernamePassword "alice" password)), .look, .collect (some login),
        .present (some (.oneTimePassword "alice" code)), .outcome .first now none]
    let byToken : List Call := [.collect (some login), .present (some (.token "t" "x"))]
    presented (calls "secret" "123456") ≠ presented (calls "sceret" "654321") ∧
      start.observe (calls "secret" "123456") = start.observe (calls "sceret" "654321") ∧
      (presented (calls "secret" "123456")).map Credential.diagnosis =
        (presented (calls "sceret" "654321")).map Credential.diagnosis ∧
      (start.performAll (calls "secret" "123456")).outcome? .first now none =
        (start.performAll byToken).outcome? .first now none ∧
      (start.performAll byToken).outcome? .first now none =
        .ok (some ⟨login, none, true⟩) := by
  intro now login calls byToken
  have hcalls : List.Forall₂ Call.Alike (calls "secret" "123456") (calls "sceret" "654321") :=
    .cons (.present (.usernamePassword _ _ _)) (.cons (.same _) (.cons (.same _)
      (.cons (.present (.oneTimePassword _ _ _)) (.cons (.same _) .nil))))
  obtain ⟨hseen, -, hdiagnoses⟩ := (secrets_unseen _ _).1 hcalls
  have houtcome := (secrets_unseen (calls "secret" "123456") byToken).2 (by decide) (by decide)
    .first now none
  exact ⟨by decide, hseen, hdiagnoses, houtcome, by decide⟩

end Transaction

end SignOn
