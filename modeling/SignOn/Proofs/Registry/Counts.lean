import SignOn.Proofs.Registry.Mirror
import SignOn.Registry.Counting

/-!
# Counts

The counts of sessions and of service tickets are taken from a scan of everything. They are unknown
together, exactly if everything cannot be listed: the backend cannot scan, or something that it
keeps cannot be opened. Otherwise every ticket that is kept counts once, expired or not: as a
session, which a proxy-granting ticket is too, as a service ticket, or not at all if it is sealed
still when it is listed. That is so for sealed tickets where no cipher is active, and never where
one is.

## Main definitions

* `Sealing.kindOf?` - the kind of the ticket that was stored
* `Sealing.countKind` - how many stored tickets are opened to one of a kind
* `Registry.Uncountable` - the backend cannot scan, or something that it keeps cannot be opened

## Main results

* `Sealing.map_kindOf?` - opening all of some tickets
* `Registry.counts_partition` - the two counts
-/

namespace SignOn

/-! ### Opening all of some tickets -/

namespace Sealing

variable {s : Sealing} {list ts : List Ticket} {stored t : Ticket} {kind : TicketKind}

/-- The kind of the ticket that was stored, if it can be opened. -/
def kindOf? (s : Sealing) (stored : Ticket) : Option TicketKind :=
  (s.decode stored).toOption.map Ticket.kind

/-- How many of some stored tickets are opened to a ticket of a kind. -/
def countKind (s : Sealing) (kind : TicketKind) (list : List Ticket) : Nat :=
  list.countP fun stored => s.kindOf? stored = some kind

theorem kindOf?_of_decode (h : s.decode stored = .ok t) : s.kindOf? stored = some t.kind := by
  rw [kindOf?, h]
  rfl

/-- All tickets are opened one by one. -/
theorem map_kindOf? (h : s.decodeAll list = .ok ts) :
    list.map s.kindOf? = ts.map fun t => some t.kind := by
  rw [decodeAll_eq_ok_iff] at h
  induction h with
  | nil => rfl
  | cons hfirst _ ih => rw [List.map_cons, List.map_cons, kindOf?_of_decode hfirst, ih]

/-! ### Counting kinds -/

theorem countKind_eq (h : s.decodeAll list = .ok ts) (kind : TicketKind) :
    s.countKind kind list = ts.countP fun t => t.kind = kind := by
  have hcount := congrArg (List.countP fun k => k = some kind) (map_kindOf? h)
  rw [List.countP_map, List.countP_map] at hcount
  simpa [countKind, Function.comp_def] using hcount

/-- No ticket is left sealed where a cipher is active. -/
theorem countKind_sealed_of_active (hactive : s.isActive = true) :
    s.countKind .sealed list = 0 := by
  refine List.countP_eq_zero.2 fun stored _ => ?_
  rw [decide_eq_true_iff, kindOf?]
  cases hdecode : s.decode stored with
  | error e => simp [Except.toOption]
  | ok t =>
    have hplain := isSealed_of_decode hactive hdecode
    cases t <;> simp [Except.toOption, Ticket.kind, Ticket.isSealed] at hplain ⊢

/-- Where no cipher is active, the sealed tickets are left as they are. -/
theorem countKind_sealed_of_inactive (hactive : s.isActive = false) :
    s.countKind .sealed list = list.countP Ticket.isSealed := by
  refine List.countP_congr fun stored _ => ?_
  rw [decide_eq_true_iff, kindOf?_of_decode (decode_of_inactive hactive stored)]
  cases stored <;> simp [Ticket.kind, Ticket.isSealed]

end Sealing

/-- A proxy-granting ticket is counted as a session. -/
theorem countP_answers_session (ts : List Ticket) :
    (ts.countP fun t => t.kind.answers .session) =
      (ts.countP fun t => t.kind = .session) + ts.countP fun t => t.kind = .proxy := by
  induction ts with
  | nil => rfl
  | cons t ts ih =>
    simp only [List.countP_cons, ih]
    cases t <;> simp [Ticket.kind, TicketKind.answers] <;> omega

theorem countP_answers_service (ts : List Ticket) :
    (ts.countP fun t => t.kind.answers .service) = ts.countP fun t => t.kind = .service := by
  refine List.countP_congr fun t _ => ?_
  simp [TicketKind.answers]

/-- Every ticket is counted under one kind. -/
theorem countP_kinds (ts : List Ticket) :
    (ts.countP fun t => t.kind = .session) + (ts.countP fun t => t.kind = .proxy) +
      (ts.countP fun t => t.kind = .service) + (ts.countP fun t => t.kind = .sealed) =
        ts.length := by
  induction ts with
  | nil => rfl
  | cons t ts ih =>
    simp only [List.countP_cons, List.length_cons, ← ih]
    cases t <;> simp [Ticket.kind] <;> omega

/-! ### The two counts -/

namespace Registry

variable {σ : Type} {r : Registry σ} {w : World σ}

/-- Everything cannot be listed: the backend cannot scan, or something that it keeps cannot be
opened. -/
def Uncountable (r : Registry σ) (w : World σ) : Prop :=
  (∃ e, r.backend.scan.outcome w.store = .error e) ∨
    ∃ list, r.backend.scan.outcome w.store = .ok list ∧
      ∃ stored ∈ list, ∃ e, r.sealing.decode stored = .error e

theorem all_outcome (r : Registry σ) (w : World σ) :
    r.all.outcome w = (r.backend.scan.outcome w.store).bind r.sealing.decodeAll := by
  unfold all Action.outcome World.onStore
  cases hscan : r.backend.scan w.store with
  | error e m => simp [bind, EStateM.bind, hscan, Except.bind]
  | ok list m =>
    cases hall : r.sealing.decodeAll list <;>
      simp [bind, EStateM.bind, hscan, Except.bind, hall]

theorem uncountable_iff : r.Uncountable w ↔ ∃ e, r.all.outcome w = .error e := by
  rw [Uncountable, all_outcome]
  cases r.backend.scan.outcome w.store with
  | error e => simp [Except.bind]
  | ok list => simp [Except.bind, Sealing.exists_decodeAll_error_iff]

theorem countOf_outcome (r : Registry σ) (kind : TicketKind) (w : World σ) :
    (r.countOf kind).outcome w = .ok (match r.all.outcome w with
      | .ok ts => ((ts.countP fun t => t.kind.answers kind : Nat) : TicketCount)
      | .error _ => .unknown) := by
  simp only [countOf, Action.outcome]
  cases r.all w <;> rfl

/-- A count is unknown exactly if everything cannot be listed, as unknown is no number. -/
theorem countOf_eq_unknown_iff (kind : TicketKind) :
    (r.countOf kind).outcome w = .ok .unknown ↔ r.Uncountable w := by
  rw [uncountable_iff, countOf_outcome]
  cases r.all.outcome w with
  | error e => simp
  | ok ts =>
    have hlt := TicketCount.unknown_lt (ts.countP fun t => t.kind.answers kind)
    simp only [Except.ok.injEq, reduceCtorEq, exists_false, iff_false]
    exact Int.ne_of_gt hlt

theorem exists_all_of_countable (h : ¬r.Uncountable w) : ∃ list ts,
    r.backend.scan.outcome w.store = .ok list ∧ r.sealing.decodeAll list = .ok ts ∧
      r.all.outcome w = .ok ts := by
  rw [uncountable_iff] at h
  have hall := all_outcome r w
  cases hresult : r.all.outcome w with
  | error e => exact absurd ⟨e, hresult⟩ h
  | ok ts =>
    rw [hresult] at hall
    cases hscan : r.backend.scan.outcome w.store with
    | error e =>
      rw [hscan] at hall
      cases hall
    | ok list =>
      rw [hscan] at hall
      exact ⟨list, ts, rfl, hall.symm, rfl⟩

/-- Whatever the backend and the sealing, either count is unknown exactly if listing everything
fails, that is if the backend cannot scan or something that it keeps cannot be opened. Otherwise
both are numbers: of the tickets that are opened to sessions or to proxy-granting tickets, and of
those that are opened to service tickets. Together with the tickets that are left sealed they are
all tickets that the backend keeps. With an active cipher none is left sealed, and without one
those are left that are stored so. -/
theorem counts_partition (r : Registry σ) (w : World σ) :
    (r.Uncountable w ↔ ∃ e, r.all.outcome w = .error e) ∧
    (r.sessionCount.outcome w = .ok .unknown ↔ r.Uncountable w) ∧
    (r.serviceCount.outcome w = .ok .unknown ↔ r.Uncountable w) ∧
    (¬r.Uncountable w → ∃ list, r.backend.scan.outcome w.store = .ok list ∧
      ∃ sessions services : Nat, r.sessionCount.outcome w = .ok sessions ∧
        r.serviceCount.outcome w = .ok services ∧
        sessions = r.sealing.countKind .session list + r.sealing.countKind .proxy list ∧
        services = r.sealing.countKind .service list ∧
        sessions + services + r.sealing.countKind .sealed list = list.length ∧
        r.sealing.countKind .sealed list =
          if r.sealing.isActive then 0 else list.countP Ticket.isSealed) := by
  refine ⟨uncountable_iff, countOf_eq_unknown_iff .session, countOf_eq_unknown_iff .service,
    fun hcountable => ?_⟩
  obtain ⟨list, ts, hscan, hts, hall⟩ := exists_all_of_countable hcountable
  refine ⟨list, hscan, _, _, ?_, ?_, rfl, rfl, ?_, ?_⟩
  · rw [sessionCount, countOf_outcome, hall, Sealing.countKind_eq hts, Sealing.countKind_eq hts,
      ← countP_answers_session]
  · rw [serviceCount, countOf_outcome, hall, Sealing.countKind_eq hts, ← countP_answers_service]
  · have hlength := congrArg List.length (Sealing.map_kindOf? hts)
    rw [List.length_map, List.length_map] at hlength
    simp only [Sealing.countKind_eq hts, hlength, ← countP_kinds ts]
  · cases hactive : r.sealing.isActive with
    | true => exact Sealing.countKind_sealed_of_active hactive
    | false => exact Sealing.countKind_sealed_of_inactive hactive

/-- A session that is expired and a proxy-granting ticket as they are, and a service ticket that was
sealed. A registry with the cipher counts all of them, and one without it does not count the service
ticket. A registry with a cipher that cannot decrypt knows neither count. -/
theorem counts_partition_mixed :
    let now : Instant := ⟨⟨2024, 1, 1, by decide⟩, 0, 0, by decide, by decide⟩
    let login : Authentication := ⟨⟨"alice", .empty⟩, [], .empty, .empty, .empty, now⟩
    let proxy : ProxyTicket := ⟨.fresh "PGT-2" login now .never, "TGT-1", ⟨"p"⟩⟩
    let c : Cipher := .masking 90 true
    let registry (s : Sealing) : Registry MemoryStore := ⟨.memory, s⟩
    let m := (MemoryStore.empty.put "TGT-1" (.session (.fresh "TGT-1" login now .always))).put
      "PGT-2" (.proxy proxy)
    let w := runAll (registry (.withCipher c))
      [.add (.service ⟨"ST-3", now, .never, "TGT-1", ⟨"app"⟩, false⟩)] ⟨m, ⟨fun _ => 0, 0⟩, .empty⟩
    (registry (.withCipher c)).sessionCount.outcome w = .ok 2 ∧
      (registry (.withCipher c)).serviceCount.outcome w = .ok 1 ∧
      (registry .none).sessionCount.outcome w = .ok 2 ∧
      (registry .none).serviceCount.outcome w = .ok 0 ∧
      (registry (.withCipher (c.refusing none (some "no key")))).sessionCount.outcome w =
        .ok .unknown := by
  intro now login proxy c registry m w
  have hlength : w.store.entries.values.length = 3 := by decide +kernel
  have hsealed : w.store.entries.values.countP Ticket.isSealed = 1 := by decide +kernel
  have hcipher : (registry (.withCipher c)).sessionCount.outcome w = .ok 2 := by decide +kernel
  have hplain : (registry .none).sessionCount.outcome w = .ok 2 := by decide +kernel
  have hrefused : (registry (.withCipher (c.refusing none (some "no key")))).sessionCount.outcome w
      = .ok .unknown := by decide +kernel
  clear_value w
  -- Of three tickets two are sessions, so the third one is a service ticket or left sealed.
  have hservices : ∀ {s : Sealing}, (registry s).sessionCount.outcome w = .ok 2 →
      (registry s).serviceCount.outcome w = .ok (if s.isActive then 1 else 0) := by
    intro s htwo
    obtain ⟨-, hunknown, -, hcounts⟩ := counts_partition (registry s) w
    have hcountable : ¬(registry s).Uncountable w := by
      rw [← hunknown, htwo]
      decide
    obtain ⟨list, hscan, sessions, services, hsessions, hservices, -, -, htotal, hleft⟩ :=
      hcounts hcountable
    obtain rfl : w.store.entries.values = list := Except.ok.inj hscan
    obtain rfl : 2 = sessions :=
      Int.ofNat_inj.1 (Except.ok.inj (htwo.symm.trans hsessions))
    change _ = if s.isActive then 0 else _ at hleft
    rw [hleft, hlength, hsealed] at htotal
    rw [hservices]
    cases hactive : s.isActive with
    | false =>
      obtain rfl : services = 0 := by simpa [hactive] using htotal
      rfl
    | true =>
      obtain rfl : services = 1 := by simp [hactive] at htotal; omega
      rfl
  exact ⟨hcipher, hservices hcipher, hplain, hservices hplain, hrefused⟩

end Registry

end SignOn
