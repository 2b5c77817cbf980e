import Mathlib.Data.Multiset.MapFold
import SignOn.Proofs.Registry.Links
import SignOn.Registry.Counting

/-!
# Simulations of registries

Everything that a registry does is made of a few steps: looking up an identifier, putting a ticket,
deleting what an identifier leads to, scanning, and counting. So two registries whose steps are
alike in related worlds answer every operation alike, and so every sequence of operations. The dates
of tickets may differ by what one of the registries makes of them; no step depends on them.

## Main definitions

* `Action.Simulates` - two actions have like results in related states
* `Registry.Simulation` - the steps of two registries are alike but for dates
* `Operation`, `Answer` - what a caller can ask of a registry, and what is answered
* `Registry.observe` - what a caller sees of a sequence of operations

## Main results

* `Action.Simulates.bind` - actions in a row are alike if the single ones are
* `Registry.Simulation.delete` - deletions are alike, with all that they follow
* `Registry.Simulation.observe_eq` - a caller sees no difference but in dates
-/

namespace SignOn

/-! ### Actions with like results -/

namespace Action

variable {σ τ α β α' β' : Type}

/-- Two results are alike if both are values or both are the same failure, in related states. -/
inductive Alike (Rel : σ → τ → Prop) (R : α → β → Prop) :
    EStateM.Result RegistryError σ α → EStateM.Result RegistryError τ β → Prop where
  | ok {a : α} {b : β} {s : σ} {t : τ} (value : R a b) (state : Rel s t) :
      Alike Rel R (.ok a s) (.ok b t)
  | error {e : RegistryError} {s : σ} {t : τ} (state : Rel s t) :
      Alike Rel R (.error e s) (.error e t)

/-- Two actions simulate each other if they have like results in related states. -/
def Simulates (Rel : σ → τ → Prop) (R : α → β → Prop) (f : Action σ α) (g : Action τ β) : Prop :=
  ∀ s t, Rel s t → Alike Rel R (f s) (g t)

variable {Rel : σ → τ → Prop} {R : α → β → Prop} {R' : α' → β' → Prop} {f : Action σ α}
  {g : Action τ β}

theorem Simulates.pure {a : α} {b : β} (h : R a b) :
    Simulates Rel R (Pure.pure a : Action σ α) (Pure.pure b : Action τ β) :=
  fun _ _ hst => .ok h hst

theorem Simulates.throw (e : RegistryError) :
    Simulates Rel R (MonadExcept.throw e : Action σ α) (MonadExcept.throw e : Action τ β) :=
  fun _ _ hst => .error hst

/-- Equal actions simulate each other in equal states. -/
theorem Simulates.of_eq {Q : α → α → Prop} {f g : Action σ α} (h : f = g) (hQ : ∀ a, Q a a) :
    Simulates Eq Q f g := by
  rintro s _ rfl
  rw [h]
  cases g s with
  | ok a t => exact .ok (hQ a) rfl
  | error e t => exact .error rfl

/-- Actions in a row are alike if what follows is alike for like values. -/
theorem Simulates.bind {f' : α → Action σ α'} {g' : β → Action τ β'} (h : Simulates Rel R f g)
    (hnext : ∀ a b, R a b → Simulates Rel R' (f' a) (g' b)) :
    Simulates Rel R' (f >>= f') (g >>= g') := by
  intro s t hst
  have hfirst := h s t hst
  -- Either both go on with like values, or both fail alike and nothing follows.
  cases hf : f s with
  | ok a s' =>
    cases hg : g t with
    | ok b t' =>
      rw [hf, hg] at hfirst
      obtain ⟨hvalue, hst'⟩ := hfirst
      rw [bind_of_ok hf, bind_of_ok hg]
      exact hnext a b hvalue s' t' hst'
    | error e t' =>
      rw [hf, hg] at hfirst
      cases hfirst
  | error e s' =>
    cases hg : g t with
    | ok b t' =>
      rw [hf, hg] at hfirst
      cases hfirst
    | error e' t' =>
      rw [hf, hg] at hfirst
      cases hfirst with
      | error hst' =>
        rw [bind_of_error hf, bind_of_error hg]
        exact .error hst'

theorem Alike.mono {Q : α → β → Prop} {x : EStateM.Result RegistryError σ α}
    {y : EStateM.Result RegistryError τ β} (h : Alike Rel R x y) (hQ : ∀ a b, R a b → Q a b) :
    Alike Rel Q x y := by
  cases h with
  | ok value state => exact .ok (hQ _ _ value) state
  | error state => exact .error state

theorem Simulates.mono {Q : α → β → Prop} (h : Simulates Rel R f g) (hQ : ∀ a b, R a b → Q a b) :
    Simulates Rel Q f g :=
  fun s t hst => (h s t hst).mono hQ

/-- The same function may be applied to like values. -/
theorem Simulates.map {k : α → α'} {l : β → β'} (h : Simulates Rel R f g)
    (hkl : ∀ a b, R a b → R' (k a) (l b)) : Simulates Rel R' (k <$> f) (l <$> g) :=
  h.bind fun a b hab => .pure (hkl a b hab)

/-- If one value of two like ones is what a function makes of the other, then so are outcomes. -/
theorem Simulates.outcome_eq {view : β → α} (h : Simulates Rel (fun a b => a = view b) f g) {s : σ}
    {t : τ} (hst : Rel s t) : f.outcome s = (g.outcome t).map view := by
  have hresult := h s t hst
  unfold outcome
  generalize f s = x, g t = y at hresult ⊢
  cases hresult with
  | ok value => exact congrArg Except.ok value
  | error => rfl

theorem Simulates.after (h : Simulates Rel R f g) {s : σ} {t : τ} (hst : Rel s t) :
    Rel (f.after s) (g.after t) := by
  have hresult := h s t hst
  unfold Action.after
  generalize f s = x, g t = y at hresult ⊢
  cases hresult with
  | ok _ state => exact state
  | error state => exact state

end Action

open SignOn.Action (Simulates)

/-! ### Operations and what a caller sees of them -/

/-- The identifiers that are looked up where a ticket is: its own one, that of its parent, and those
that it lists. -/
def Ticket.Uses (t : Ticket) (id : String) : Prop := t.Mentions id ∨ t.parent? = some id

/-- The identifiers that a ticket uses, one by one. -/
def Ticket.usedIds (t : Ticket) : List String :=
  t.id :: (t.parent?.toList ++
    t.session?.toList.flatMap fun body => body.services.keys ++ body.proxies.keys)

theorem Ticket.mem_usedIds_iff {t : Ticket} {id : String} : id ∈ t.usedIds ↔ t.Uses id := by
  simp only [usedIds, Uses, Mentions, List.mem_cons, List.mem_append, Option.mem_toList,
    List.mem_flatMap]
  exact (or_congr_right or_comm).trans or_assoc.symm

/-- What a caller can ask of a registry. -/
inductive Operation where
  | add (t : Ticket)
  | update (t : Ticket)
  | find (id : String)
  | findAs (id : String) (kind : TicketKind)
  | findService (id : String)
  | findProxy (id : String)
  | isOrphaned (t : ServiceTicket)
  | delete (id : String)
  | deleteResolved (t : Ticket)
  | deleteOne (id : String)
  | deleteAll
  | all
  | sessionCount
  | serviceCount

/-- What a registry answers. The order in which it lists its tickets is left open. -/
inductive Answer where
  | done
  | found (t : Option Ticket)
  | foundService (t : Option ServiceTicket)
  | foundProxy (t : Option ProxyTicket)
  | told (b : Bool)
  | removed (n : Nat)
  | listed (ts : Multiset Ticket)
  | counted (n : TicketCount)

/-- The answer with the dates of its tickets changed. -/
def Answer.mapDates (f : Instant → Instant) : Answer → Answer
  | found t => found (t.map (Ticket.mapDates f))
  | foundService t => foundService (t.map (ServiceTicket.mapDates f))
  | foundProxy t => foundProxy (t.map (ProxyTicket.mapDates f))
  | listed ts => listed (ts.map (Ticket.mapDates f))
  | done => done
  | told b => told b
  | removed n => removed n
  | counted n => counted n

/-- What a caller sees of an operation: the answer or the failure, how many tickets are kept
afterwards, how often they were written, and the metrics. -/
structure Observation where
  outcome : Except RegistryError Answer
  size : Nat
  writes : Nat
  metrics : Metrics

/-- The observation with the dates of the tickets in the answer changed. -/
def Observation.mapDates (f : Instant → Instant) (o : Observation) : Observation :=
  { o with outcome := o.outcome.map (Answer.mapDates f) }

theorem Answer.mapDates_of_fixed {f : Instant → Instant} (h : ∀ i, f i = i) (a : Answer) :
    a.mapDates f = a := by
  have hticket : Ticket.mapDates f = fun t => t := funext (Ticket.mapDates_of_fixed h)
  have hservice : ServiceTicket.mapDates f = fun t => t := by
    funext t
    rw [ServiceTicket.mapDates, h]
  have hproxy : ProxyTicket.mapDates f = fun t => t := funext (ProxyTicket.mapDates_of_fixed h)
  cases a <;> simp [mapDates, hticket, hservice, hproxy]

theorem Observation.mapDates_of_fixed {f : Instant → Instant} (h : ∀ i, f i = i)
    (o : Observation) : o.mapDates f = o := by
  obtain ⟨outcome, size, writes, metrics⟩ := o
  cases outcome with
  | ok a => rw [mapDates, Except.map, Answer.mapDates_of_fixed h]
  | error e => rfl

namespace Operation

/-- The ticket that a registry is given. -/
def ticket? : Operation → Option Ticket
  | add t | update t | deleteResolved t => some t
  | find _ | findAs _ _ | findService _ | findProxy _ | isOrphaned _ | delete _ | deleteOne _
  | deleteAll | all | sessionCount | serviceCount => none

/-- The identifiers that a registry is given, in a ticket or alone. -/
def Uses : Operation → String → Prop
  | add t, id | update t, id | deleteResolved t, id => t.Uses id
  | find own, id | findAs own _, id | findService own, id | findProxy own, id | delete own, id
  | deleteOne own, id => id = own
  | isOrphaned t, id => id = t.parent
  | deleteAll, _ | all, _ | sessionCount, _ | serviceCount, _ => False

/-- The identifiers that a registry is given in a sequence of operations. -/
def UsedBy (ops : List Operation) (id : String) : Prop := ∃ op ∈ ops, op.Uses id

/-- What a given ticket uses is used. -/
theorem uses_of_ticket? (op : Operation) {t : Ticket} {id : String} (ht : op.ticket? = some t)
    (hid : t.Uses id) : op.Uses id := by
  cases op with
  | add _ | update _ | deleteResolved _ =>
    obtain rfl := Option.some.inj ht
    exact hid
  | _ => cases ht

/-- What a registry does, and answers. -/
def run {σ : Type} (r : Registry σ) : Operation → Action (World σ) Answer
  | add t => (fun _ => .done) <$> r.add t
  | update t => (fun _ => .done) <$> r.update t
  | find id => .found <$> r.find id
  | findAs id kind => .found <$> r.findAs id kind
  | findService id => .foundService <$> r.findService id
  | findProxy id => .foundProxy <$> r.findProxy id
  | isOrphaned t => .told <$> r.isOrphaned t
  | delete id => .removed <$> r.delete id
  | deleteResolved t => .removed <$> r.deleteResolved t
  | deleteOne id => .told <$> r.deleteOne id
  | deleteAll => .removed <$> r.deleteAll
  | all => (fun ts : List Ticket => .listed ts) <$> r.all
  | sessionCount => .counted <$> r.sessionCount
  | serviceCount => .counted <$> r.serviceCount

end Operation

namespace Registry

/-- The world after a sequence of operations; one that fails does not end the sequence. -/
def runAll {σ : Type} (r : Registry σ) : List Operation → World σ → World σ
  | [], w => w
  | op :: ops, w => r.runAll ops ((op.run r).after w)

/-- What a caller sees of a sequence of operations. -/
def observe (r : Registry MemoryStore) : List Operation → World MemoryStore → List Observation
  | [], _ => []
  | op :: ops, w =>
    let after := (op.run r).after w
    ⟨(op.run r).outcome w, after.store.size, after.store.writes, after.metrics⟩ ::
      r.observe ops after

/-! ### Simulations -/

variable {σ τ : Type}

/-- The steps of two registries are alike in related worlds, for some identifiers and some tickets.
What such a ticket uses are such identifiers, and it may be struck off lists. What is found in the
first registry has the dates that a function makes of those in the second one, and the first one may
be given any ticket of which it makes the same. -/
structure Simulation (f : Instant → Instant) (r : Registry σ) (r' : Registry τ)
    (Rel : World σ → World τ → Prop) (ids : String → Prop) (admits : Ticket → Prop) : Prop where
  idem : ∀ i, f (f i) = f i
  uses : ∀ {t id}, admits t → t.Uses id → ids id
  removeProxy : ∀ {t} (id), admits t → admits (t.mapSession fun body => body.removeProxy id)
  clearProxies : ∀ {t}, admits t → admits (t.mapSession Session.clearProxies)
  count : ∀ counter n, Simulates Rel Eq (World.count counter n) (World.count counter n)
  find : ∀ {id}, ids id →
    Simulates Rel (fun a b => a = b.map (Ticket.mapDates f) ∧ ∀ t, b = some t → admits t)
      (r.find id) (r'.find id)
  update : ∀ {t t'}, admits t → t'.mapDates f = t.mapDates f →
    Simulates Rel Eq (r.update t') (r'.update t)
  deleteOne : ∀ {id}, ids id → Simulates Rel Eq (r.deleteOne id) (r'.deleteOne id)
  deleteAll : Simulates Rel Eq r.deleteAll r'.deleteAll
  all : Simulates Rel (fun ts us => ts.Perm (us.map (Ticket.mapDates f))) r.all r'.all

namespace Simulation

variable {f : Instant → Instant} {r : Registry σ} {r' : Registry τ} {Rel : World σ → World τ → Prop}
  {ids : String → Prop} {admits : Ticket → Prop}

theorem mapDates_idem (h : Simulation f r r' Rel ids admits) (t : Ticket) :
    (t.mapDates f).mapDates f = t.mapDates f := by
  rw [Ticket.mapDates_mapDates, show f ∘ f = f from funext h.idem]

theorem find_eq (h : Simulation f r r' Rel ids admits) {id : String} (hid : ids id) :
    Simulates Rel (fun a b => a = b.map (Ticket.mapDates f)) (r.find id) (r'.find id) :=
  (h.find hid).mono fun _ _ hab => hab.1

theorem add (h : Simulation f r r' Rel ids admits) {t : Ticket} (ht : admits t) :
    Simulates Rel Eq (r.add t) (r'.add t) :=
  (h.update ht rfl).bind fun _ _ _ => h.count _ _

/-- Which kind a ticket has, and how it is named in a failure, does not depend on its dates. -/
theorem findAs (h : Simulation f r r' Rel ids admits) {id : String} (hid : ids id)
    (kind : TicketKind) :
    Simulates Rel (fun a b => a = b.map (Ticket.mapDates f)) (r.findAs id kind)
      (r'.findAs id kind) := by
  refine (h.find_eq hid).bind ?_
  rintro _ found rfl
  cases found with
  | none => exact .pure rfl
  | some t =>
    simp only [Option.map_some, Ticket.kind_mapDates, Ticket.id_mapDates]
    by_cases hkind : t.kind.answers kind = true
    · simp only [hkind, if_true]
      exact .pure rfl
    · simp only [hkind]
      exact .throw _

theorem isOrphaned (h : Simulation f r r' Rel ids admits) {t : ServiceTicket} (ht : ids t.parent) :
    Simulates Rel Eq (r.isOrphaned t) (r'.isOrphaned t) := by
  refine (h.find_eq ht).bind ?_
  rintro _ found rfl
  exact .pure Option.isNone_map

/-- A count depends on the kinds of the tickets alone, not on their order. -/
theorem countOf (h : Simulation f r r' Rel ids admits) (kind : TicketKind) :
    Simulates Rel Eq (r.countOf kind) (r'.countOf kind) := by
  intro w w' hw
  have hall := h.all w w' hw
  unfold Registry.countOf
  cases hr : r.all w <;> cases hr' : r'.all w' <;> rw [hr, hr'] at hall
  · obtain ⟨hperm, hstate⟩ := hall
    refine .ok (congrArg Nat.cast ((hperm.countP_eq _).trans ?_)) hstate
    simp only [List.countP_map, Function.comp_def, Ticket.kind_mapDates]
  · cases hall
  · cases hall
  · cases hall with
    | error hstate => exact .ok rfl hstate

/-! ### Deletions -/

theorem deleteEach (h : Simulation f r r' Rel ids admits) {list : List String}
    (hlist : ∀ id ∈ list, ids id) : Simulates Rel Eq (r.deleteEach list) (r'.deleteEach list) := by
  induction list with
  | nil => exact .pure rfl
  | cons id rest ih =>
    refine (h.deleteOne (hlist id List.mem_cons_self)).bind ?_
    rintro removed _ rfl
    refine (ih fun id hid => hlist id (List.mem_cons_of_mem _ hid)).bind ?_
    rintro others _ rfl
    exact .pure rfl

theorem deleteServices (h : Simulation f r r' Rel ids admits) {t : Ticket} {body body' : Session}
    (ht : admits t) (hbody : t.session? = some body) (hsame : body'.services = body.services) :
    Simulates Rel Eq (r.deleteServices body') (r'.deleteServices body) := by
  rw [Registry.deleteServices, Registry.deleteServices, hsame]
  exact h.deleteEach fun _ hid => h.uses ht (.inl (.inr ⟨body, hbody, .inl hid⟩))

theorem detach (h : Simulation f r r' Rel ids admits) {p p' : ProxyTicket}
    (hp : admits (.proxy p)) (hsame : p'.mapDates f = p.mapDates f) :
    Simulates Rel Eq (r.detach p') (r'.detach p) := by
  obtain ⟨hparent, hid, -⟩ := ProxyTicket.links_eq hsame
  rw [Registry.detach, Registry.detach, hparent, hid]
  refine (h.find (h.uses hp (.inr rfl))).bind ?_
  rintro _ found ⟨rfl, hfound⟩
  cases found with
  | none => exact .pure rfl
  | some parent =>
    -- What was found may be put again with one entry less.
    have hadmits := h.removeProxy p.id (hfound parent rfl)
    have hdates : ((parent.mapDates f).mapSession (·.removeProxy p.id)).mapDates f =
        (parent.mapSession (·.removeProxy p.id)).mapDates f := by
      rw [Ticket.mapDates_removeProxy, Ticket.mapDates_removeProxy, h.mapDates_idem]
    cases parent with
    | session parent => exact h.update hadmits hdates
    | proxy parent => exact h.update hadmits hdates
    | service parent => exact .pure rfl
    | sealed parent => exact .pure rfl

theorem deleteProxy (h : Simulation f r r' Rel ids admits) {p p' : ProxyTicket}
    (hp : admits (.proxy p)) (hsame : p'.mapDates f = p.mapDates f) :
    Simulates Rel Eq (r.deleteProxy p') (r'.deleteProxy p) := by
  obtain ⟨-, hid, hservices⟩ := ProxyTicket.links_eq hsame
  refine (h.deleteServices hp rfl hservices).bind ?_
  rintro services _ rfl
  refine (h.detach hp hsame).bind fun _ _ _ => ?_
  rw [hid]
  refine (h.deleteOne (h.uses hp (.inl (.inl rfl)))).bind ?_
  rintro removed _ rfl
  exact .pure rfl

/-- Counting whether there was a single ticket. -/
theorem deleteOne_toNat (h : Simulation f r r' Rel ids admits) {id id' : String} (hid : ids id)
    (hsame : id' = id) :
    Simulates Rel Eq (do return (← r.deleteOne id').toNat)
      (do return (← r'.deleteOne id).toNat) := by
  subst hsame
  refine (h.deleteOne hid).bind ?_
  rintro removed _ rfl
  exact .pure rfl

theorem deleteLinked (h : Simulation f r r' Rel ids admits) {id : String} (hid : ids id) :
    Simulates Rel Eq (r.deleteLinked id) (r'.deleteLinked id) := by
  refine (h.find hid).bind ?_
  rintro _ found ⟨rfl, hfound⟩
  cases found with
  | none => exact .pure rfl
  | some t =>
    have ht := hfound t rfl
    have hid := h.uses ht (.inl (.inl rfl))
    cases t with
    | proxy p => exact h.deleteProxy ht (Ticket.proxy.inj (h.mapDates_idem (.proxy p)))
    | session _ => exact h.deleteOne_toNat hid rfl
    | service _ => exact h.deleteOne_toNat hid rfl
    | sealed _ => exact h.deleteOne_toNat hid rfl

theorem deleteEachLinked (h : Simulation f r r' Rel ids admits) {list : List String}
    (hlist : ∀ id ∈ list, ids id) :
    Simulates Rel Eq (r.deleteEachLinked list) (r'.deleteEachLinked list) := by
  induction list with
  | nil => exact .pure rfl
  | cons id rest ih =>
    refine (h.deleteLinked (hlist id List.mem_cons_self)).bind ?_
    rintro removed _ rfl
    refine (ih fun id hid => hlist id (List.mem_cons_of_mem _ hid)).bind ?_
    rintro others _ rfl
    exact .pure rfl

theorem deleteProxies (h : Simulation f r r' Rel ids admits) {root root' : Session}
    (hroot : admits (.session root)) (hsame : root'.mapDates f = root.mapDates f) :
    Simulates Rel Eq (r.deleteProxies root') (r'.deleteProxies root) := by
  obtain ⟨-, -, hproxies⟩ := Session.links_eq hsame
  unfold Registry.deleteProxies
  rw [hproxies]
  by_cases hempty : root.proxies.isEmpty = true
  · simp only [hempty, if_true]
    exact .pure rfl
  · simp only [hempty]
    have hkeys : ∀ id ∈ root.proxies.keys, ids id := fun id hid =>
      h.uses hroot (.inl (.inr ⟨root, rfl, .inr hid⟩))
    have hcleared : (Ticket.session root'.clearProxies).mapDates f =
        (Ticket.session root.clearProxies).mapDates f := by
      simp only [Ticket.mapDates, Session.mapDates_clearProxies, hsame]
    refine (h.deleteEachLinked hkeys).bind ?_
    rintro removed _ rfl
    exact (h.update (h.clearProxies hroot) hcleared).bind fun _ _ _ => .pure rfl

theorem deleteSession (h : Simulation f r r' Rel ids admits) {root root' : Session}
    (hroot : admits (.session root)) (hsame : root'.mapDates f = root.mapDates f) :
    Simulates Rel Eq (r.deleteSession root') (r'.deleteSession root) := by
  obtain ⟨hid, hservices, -⟩ := Session.links_eq hsame
  refine (h.deleteServices hroot rfl hservices).bind ?_
  rintro services _ rfl
  refine (h.deleteProxies hroot hsame).bind ?_
  rintro proxies _ rfl
  rw [hid]
  refine (h.deleteOne (h.uses hroot (.inl (.inl rfl)))).bind ?_
  rintro removed _ rfl
  exact .pure rfl

/-- What a deletion does depends on the links of the ticket, not on its dates. -/
theorem deleteResolved (h : Simulation f r r' Rel ids admits) {t t' : Ticket} (ht : admits t)
    (hsame : t'.mapDates f = t.mapDates f) :
    Simulates Rel Eq (r.deleteResolved t') (r'.deleteResolved t) := by
  have hid := h.uses ht (.inl (.inl rfl))
  have hown : t'.id = t.id := by
    rw [← Ticket.id_mapDates f t', hsame, Ticket.id_mapDates]
  have htree : Simulates Rel Eq (r.deleteTree t') (r'.deleteTree t) := by
    cases t <;> cases t' <;> simp only [Ticket.mapDates, reduceCtorEq] at hsame
    · exact h.deleteSession ht (Ticket.session.inj hsame)
    · exact h.deleteOne_toNat hid hown
    · exact h.deleteProxy ht (Ticket.proxy.inj hsame)
    · exact h.deleteOne_toNat hid hown
  refine htree.bind ?_
  rintro removed _ rfl
  exact (h.count _ _).bind fun _ _ _ => .pure rfl

theorem delete (h : Simulation f r r' Rel ids admits) {id : String} (hid : ids id) :
    Simulates Rel Eq (r.delete id) (r'.delete id) := by
  refine (h.find hid).bind ?_
  rintro _ found ⟨rfl, hfound⟩
  cases found with
  | none => exact .pure rfl
  | some t => exact h.deleteResolved (hfound t rfl) (h.mapDates_idem t)

/-! ### Sequences of operations -/

/-- An answer without tickets is the same. -/
theorem map_answer {α : Type} {g : Action (World σ) α} {g' : Action (World τ) α}
    (h : Simulates Rel Eq g g') {answer : α → Answer}
    (hdates : ∀ a, (answer a).mapDates f = answer a) :
    Simulates Rel (fun a b => a = b.mapDates f) (answer <$> g) (answer <$> g') :=
  h.map fun a b hab => by rw [hab, hdates]

/-- An operation on such tickets and identifiers is answered alike. -/
theorem run (h : Simulation f r r' Rel ids admits) {op : Operation}
    (hticket : ∀ t, op.ticket? = some t → admits t) (hids : ∀ id, op.Uses id → ids id) :
    Simulates Rel (fun a b => a = b.mapDates f) (op.run r) (op.run r') := by
  cases op with
  | add t => exact map_answer (h.add (hticket t rfl)) fun _ => rfl
  | update t => exact map_answer (h.update (hticket t rfl) rfl) fun _ => rfl
  | find id => exact (h.find_eq (hids id rfl)).map fun _ _ hab => congrArg Answer.found hab
  | findAs id kind =>
    exact (h.findAs (hids id rfl) kind).map fun _ _ hab => congrArg Answer.found hab
  | findService id =>
    refine ((h.findAs (hids id rfl) .service).bind fun a b hab => .pure ?_).map
      fun _ _ hab => congrArg Answer.foundService hab
    rw [hab]
    exact Ticket.bind_service?_mapDates f b
  | findProxy id =>
    refine ((h.findAs (hids id rfl) .proxy).bind fun a b hab => .pure ?_).map
      fun _ _ hab => congrArg Answer.foundProxy hab
    rw [hab]
    exact Ticket.bind_proxy?_mapDates f b
  | isOrphaned t => exact map_answer (h.isOrphaned (hids _ rfl)) fun _ => rfl
  | delete id => exact map_answer (h.delete (hids id rfl)) fun _ => rfl
  | deleteResolved t => exact map_answer (h.deleteResolved (hticket t rfl) rfl) fun _ => rfl
  | deleteOne id => exact map_answer (h.deleteOne (hids id rfl)) fun _ => rfl
  | deleteAll => exact map_answer h.deleteAll fun _ => rfl
  | all =>
    refine h.all.map fun _ _ hperm => ?_
    rw [Answer.mapDates, Multiset.map_coe]
    exact congrArg Answer.listed (Multiset.coe_eq_coe.2 hperm)
  | sessionCount => exact map_answer (h.countOf .session) fun _ => rfl
  | serviceCount => exact map_answer (h.countOf .service) fun _ => rfl

variable {ops : List Operation} {w : World σ} {w' : World τ}

/-- The worlds stay related. -/
theorem runAll (h : Simulation f r r' Rel ids admits)
    (hticket : ∀ op ∈ ops, ∀ t, op.ticket? = some t → admits t)
    (hids : ∀ op ∈ ops, ∀ id, op.Uses id → ids id) (hw : Rel w w') :
    Rel (r.runAll ops w) (r'.runAll ops w') := by
  induction ops generalizing w w' with
  | nil => exact hw
  | cons op ops ih =>
    have hop := h.run (hticket op List.mem_cons_self) (hids op List.mem_cons_self)
    exact ih (fun op hop => hticket op (List.mem_cons_of_mem _ hop))
      (fun op hop => hids op (List.mem_cons_of_mem _ hop)) (hop.after hw)

/-- A caller sees no difference but in dates, if related stores are of the same size and were
written as often. -/
theorem observe_eq {r r' : Registry MemoryStore}
    {Rel : World MemoryStore → World MemoryStore → Prop} {w w' : World MemoryStore}
    (h : Simulation f r r' Rel ids admits)
    (hticket : ∀ op ∈ ops, ∀ t, op.ticket? = some t → admits t)
    (hids : ∀ op ∈ ops, ∀ id, op.Uses id → ids id)
    (hsame : ∀ w w', Rel w w' → w.store.size = w'.store.size ∧ w.store.writes = w'.store.writes ∧
      w.metrics = w'.metrics)
    (hw : Rel w w') :
    r.observe ops w = (r'.observe ops w').map (Observation.mapDates f) := by
  induction ops generalizing w w' with
  | nil => rfl
  | cons op ops ih =>
    have hop := h.run (hticket op List.mem_cons_self) (hids op List.mem_cons_self)
    have hafter := hop.after hw
    obtain ⟨hsize, hwrites, hmetrics⟩ := hsame _ _ hafter
    have hrest := ih (fun op hop => hticket op (List.mem_cons_of_mem _ hop))
      (fun op hop => hids op (List.mem_cons_of_mem _ hop)) hafter
    simp only [observe, List.map_cons, Observation.mapDates, hop.outcome_eq hw, hsize, hwrites,
      hmetrics, hrest]

end Simulation

end Registry

end SignOn
