import SignOn.Proofs.Auth.Stages

/-!
# The order of collection

The steps of a login may be collected in any order, for instance when several of them are answered
in parallel. The order decides three things only: in which order values and credentials are listed,
whose report or refusal counts where several authentications have one under the name of a handler,
and who is the first principal. Everything else is the same in every order: the names, the values
under each of them, the credentials, the handlers, and what a handler said that only one
authentication mentions.

## Main definitions

* `Attributes.Reorders` - two maps have the same names with the same values, each of them once
* `Authentication.SharesSole` - two maps have the same keys, and share the entries that come from a
  single authentication
* `Outcome.Reorders` - two outcomes differ in nothing but order and whose entries count

## Main results

* `Attributes.Unites.reorders` - unions of the same maps in another order
* `TextMap.TakesLast.get?_of_agree` - which of several maps is the last one does not matter where
  they agree
* `Transaction.outcome?_reordered` - what becomes of an outcome in another order
-/

namespace SignOn

section EraseDups

variable {α : Type} [DecidableEq α]

/-- The order decides only the order in which values come first. -/
theorem perm_eraseDups {xs ys : List α} (h : xs.Perm ys) : xs.eraseDups.Perm ys.eraseDups := by
  apply (List.perm_ext_iff_of_nodup (nodup_eraseDups xs) (nodup_eraseDups ys)).2
  intro x
  rw [List.mem_eraseDups, List.mem_eraseDups, h.mem_iff]

end EraseDups

/-! ### Attributes in another order -/

namespace Attributes

variable {a b : Attributes} {maps maps' : List Attributes}

/-- Two maps have the same names, and under each of them a list of the same values, each of them
once, perhaps in another order. -/
structure Reorders (a b : Attributes) : Prop where
  mem_keys_iff : ∀ name, name ∈ a.keys ↔ name ∈ b.keys
  exists_values : ∀ name ∈ a.keys, ∃ xs ys, a.get? name = some (.multi xs) ∧
    b.get? name = some (.multi ys) ∧ xs.Nodup ∧ ys.Nodup ∧ xs.Perm ys

/-- Unions of the same maps in another order. -/
theorem Unites.reorders (ha : a.Unites maps) (hb : b.Unites maps') (h : maps.Perm maps') :
    a.Reorders b := by
  have hname : ∀ name, (∃ c ∈ maps, name ∈ c.keys) ↔ ∃ c ∈ maps', name ∈ c.keys := by
    intro name
    simp only [h.mem_iff]
  refine ⟨fun name => ?_, fun name hmem => ?_⟩
  · rw [ha.mem_keys_iff, hb.mem_keys_iff, hname]
  · have hmem := ha.mem_keys_iff.1 hmem
    refine ⟨_, _, (ha name).trans (if_pos hmem), (hb name).trans (if_pos ((hname name).1 hmem)),
      nodup_eraseDups _, nodup_eraseDups _, perm_eraseDups ?_⟩
    exact h.flatMap_right _

end Attributes

/-! ### Last entries in another order -/

namespace TextMap

variable {β : Type} {m n : TextMap β} {maps : List (TextMap β)} {key : String}

/-- The map of the last entries has the keys of all maps. -/
theorem TakesLast.mem_keys_iff (h : m.TakesLast maps) :
    key ∈ m.keys ↔ ∃ n ∈ maps, key ∈ n.keys := by
  rw [← not_iff_not, ← get?_eq_none_iff, h key, List.getLast?_eq_none_iff,
    List.filterMap_eq_nil_iff]
  simp only [get?_eq_none_iff, not_exists, not_and]

/-- Where all maps that have a key agree with one map, the last one does. -/
theorem TakesLast.get?_of_agree (h : m.TakesLast maps) (hn : n ∈ maps)
    (hagree : ∀ n' ∈ maps, key ∈ n'.keys → n'.get? key = n.get? key) : m.get? key = n.get? key := by
  have hall : ∀ value ∈ maps.filterMap fun n' => n'.get? key, n.get? key = some value := by
    intro value hvalue
    obtain ⟨n', hn', hget⟩ := List.mem_filterMap.1 hvalue
    rw [← hagree n' hn' (TextMap.mem_keys_iff.2 ⟨value, hget⟩), hget]
  rw [h key]
  cases hlast : (maps.filterMap fun n' => n'.get? key).getLast? with
  | some value => exact (hall value (List.mem_of_getLast? hlast)).symm
  | none =>
    -- No map has the key, and so this one has not.
    exact (List.filterMap_eq_nil_iff.1 (List.getLast?_eq_none_iff.1 hlast) n hn).symm

end TextMap

/-! ### Outcomes in another order -/

namespace Authentication

variable {β : Type} {m m' : TextMap β} {entries : Authentication → TextMap β}
  {as bs : List Authentication}

/-- Two maps are put together from entries of the same authentications: they have the same keys, and
under a key that only one of the authentications has, both have the entry of that one. -/
structure SharesSole (m m' : TextMap β) (entries : Authentication → TextMap β)
    (as : List Authentication) : Prop where
  mem_keys_iff : ∀ key, key ∈ m.keys ↔ key ∈ m'.keys
  get?_of_sole : ∀ key, ∀ a ∈ as, (∀ b ∈ as, key ∈ (entries b).keys → b = a) →
    m.get? key = (entries a).get? key ∧ m'.get? key = (entries a).get? key

theorem sharesSole_of_takesLast (hm : m.TakesLast (as.map entries))
    (hm' : m'.TakesLast (bs.map entries)) (h : as.Perm bs) : SharesSole m m' entries as where
  mem_keys_iff key := by
    rw [hm.mem_keys_iff, hm'.mem_keys_iff]
    simp only [(h.map entries).mem_iff]
  get?_of_sole key a ha hsole := by
    have hagree : ∀ n ∈ as.map entries, key ∈ n.keys → n.get? key = (entries a).get? key := by
      intro n hn hkey
      obtain ⟨b, hb, rfl⟩ := List.mem_map.1 hn
      rw [hsole b hb hkey]
    have hmem : entries a ∈ as.map entries := List.mem_map.2 ⟨a, ha, rfl⟩
    refine ⟨hm.get?_of_agree hmem hagree, hm'.get?_of_agree ((h.map entries).mem_iff.1 hmem) ?_⟩
    exact fun n hn => hagree n ((h.map entries).mem_iff.2 hn)

end Authentication

/-- Two outcomes of the same authentications, collected in two orders. -/
structure Outcome.Reorders (o o' : Outcome) (as : List Authentication) : Prop where
  attributes : o.authentication.attributes.Reorders o'.authentication.attributes
  principalAttributes :
    o.authentication.principal.attributes.Reorders o'.authentication.principal.attributes
  credentials : o.authentication.credentials.Perm o'.authentication.credentials
  successes : Authentication.SharesSole o.authentication.successes o'.authentication.successes
    Authentication.successes as
  failures : Authentication.SharesSole o.authentication.failures o'.authentication.failures
    Authentication.failures as

namespace Outcome

variable {o o' : Outcome} {as bs : List Authentication} {now now' : Instant}
  {service service' : Option Service} {presented presented' : Bool}

theorem Composes.reorders {hne : as ≠ []} {hne' : bs ≠ []}
    (h : o.Composes as (Transaction.usualPrincipal as hne) now service presented)
    (h' : o'.Composes bs (Transaction.usualPrincipal bs hne') now' service' presented')
    (hperm : as.Perm bs) : o.Reorders o' as where
  attributes := h.attributes.reorders h'.attributes (hperm.map _)
  principalAttributes := by
    rw [h.principal, h'.principal]
    exact (Transaction.unites_principalAttributes as).reorders
      (Transaction.unites_principalAttributes bs) (hperm.map _)
  credentials := by
    rw [h.credentials, h'.credentials]
    exact hperm.flatMap_right _
  successes := Authentication.sharesSole_of_takesLast h.successes h'.successes hperm
  failures := Authentication.sharesSole_of_takesLast h.failures h'.failures hperm

end Outcome

namespace Transaction

variable {as bs : List Authentication}

/-- The same different authentications are collected in two orders, with any credentials presented,
at any times and for any services, and the principal is elected in the usual way. Without any of
them there is no outcome in either order. Otherwise there are two outcomes. They have the same names
of attributes, also of the principal, with the same values, each of them once. They list the same
credentials, and name the same handlers. What a handler said that only one authentication mentions
is the same in both. And they are about the same principal exactly if both orders start with an
authentication of the same principal. -/
theorem outcome?_reordered (hnodup : as.Nodup) (hperm : as.Perm bs) (cs ds : List Credential)
    (now now' : Instant) (service service' : Option Service) :
    (as = [] → (gathered as cs).outcome? .first now service = .ok none ∧
      (gathered bs ds).outcome? .first now' service' = .ok none) ∧
    (as ≠ [] → ∃ o o', (gathered as cs).outcome? .first now service = .ok (some o) ∧
      (gathered bs ds).outcome? .first now' service' = .ok (some o') ∧ o.Reorders o' as ∧
      (o.authentication.principal.id = o'.authentication.principal.id ↔
        as.head?.map (·.principal.id) = bs.head?.map (·.principal.id))) := by
  rw [gathered_of_nodup hnodup, gathered_of_nodup (hperm.nodup_iff.1 hnodup)]
  refine ⟨fun hnil => ?_, fun hne => ?_⟩
  · subst hnil
    obtain rfl := hperm.nil_eq
    exact ⟨outcome?_of_empty rfl, outcome?_of_empty rfl⟩
  · have hne' : bs ≠ [] := fun hnil => hne (List.perm_nil.1 (hnil ▸ hperm))
    obtain ⟨o, ho, hcomposes⟩ := exists_outcome?_usual hne cs now service
    obtain ⟨o', ho', hcomposes'⟩ := exists_outcome?_usual hne' ds now' service'
    refine ⟨o, o', ho, ho', hcomposes.reorders hcomposes' hperm, ?_⟩
    rw [hcomposes.principal, hcomposes'.principal, List.head?_eq_some_head hne,
      List.head?_eq_some_head hne', Option.map_some, Option.map_some, Option.some.injEq]
    rfl

/-- A password, a code and a hardware key, and the same with the password last. The password and the
code name the same user, so that the principal is the same. The last refusal of the directory is
another one, but only the key was refused by its own handler. -/
theorem outcome?_reordered_parallel :
    let now : Instant := ⟨⟨2024, 1, 1, by decide⟩, 0, 0, by decide, by decide⟩
    let step (user : String) (refusals : List (String × String)) (methods : List String) :
        Authentication :=
      ⟨⟨user, .ofList [("mail", .single user)]⟩, [⟨user, "token"⟩], .empty, .ofList refusals,
        .ofList [("amr", .multi methods)], now⟩
    let password := step "alice" [("ldap", "slow")] ["pwd", "pwd"]
    let code := step "alice" [("ldap", "down")] ["otp", "pwd"]
    let key := step "bob" [("fido", "gone")] ["hwk", "otp"]
    ∃ o o', (gathered [password, code, key] []).outcome? .first now none = .ok (some o) ∧
      (gathered [code, key, password] []).outcome? .first now none = .ok (some o') ∧
      o.Reorders o' [password, code, key] ∧
      o.authentication.principal.id = o'.authentication.principal.id ∧
      o.authentication.failures.get? "ldap" = some "down" ∧
      o'.authentication.failures.get? "ldap" = some "slow" ∧
      o.authentication.failures.get? "fido" = some "gone" ∧
      o'.authentication.failures.get? "fido" = some "gone" := by
  intro now step password code key
  have hperm : [password, code, key].Perm [code, key, password] := by decide
  obtain ⟨-, hsome⟩ := outcome?_reordered (by decide) hperm [] [] now now none none
  obtain ⟨o, o', ho, ho', hreorders, hprincipal⟩ := hsome (List.cons_ne_nil _ _)
  obtain ⟨hfido, hfido'⟩ := hreorders.failures.get?_of_sole "fido" key (by decide) (by decide)
  -- Whose refusal counts where there are several is what the order decides.
  have hrefusal : ∀ {t : Transaction} {o : Outcome} {refusal : Option String},
      t.outcome? .first now none = .ok (some o) →
      (t.outcome? .first now none).map
        (Option.map fun o => o.authentication.failures.get? "ldap") = .ok (some refusal) →
      o.authentication.failures.get? "ldap" = refusal := by
    intro t o refusal ho hlast
    rw [ho] at hlast
    exact Option.some.inj (Except.ok.inj hlast)
  exact ⟨o, o', ho, ho', hreorders, hprincipal.2 rfl, hrefusal ho (by decide),
    hrefusal ho' (by decide), hfido.trans (by decide), hfido'.trans (by decide)⟩

end Transaction

end SignOn
