import Mathlib.Data.List.Forall2
import SignOn.Proofs.Sealing.RoundTrip

/-!
# Opening stored tickets in bulk

Where no cipher is active, a list of stored tickets is handed out without a look at its tickets, and
where one is active they are opened one by one up to the first failure. Both give what opening each
ticket for itself gives: all of them, one for one and in order, or the error of the first one that
cannot be opened.

## Main definitions

* `Sealing.StopsWith` - some tickets are opened, and the next one fails

## Main results

* `Sealing.decodeAll_eq_decodeEach` - the short cut gives the same
* `Sealing.decodeAll_eq_ok_iff`, `Sealing.decodeAll_eq_error_iff` - the two ways to end
* `Sealing.decodeAll_agrees` - opening in bulk and opening one by one
-/

namespace SignOn.Sealing

variable {s : Sealing} {list ts : List Ticket} {stored t : Ticket} {e : RegistryError}

/-! ### The short cut -/

theorem decodeEach_of_inactive (h : s.isActive = false) (list : List Ticket) :
    s.decodeEach list = .ok list := by
  induction list with
  | nil => rfl
  | cons stored rest ih => simp only [decodeEach, decode_of_inactive h, ih, Except.map]

/-- The tickets that are not looked at would have been what they are. -/
theorem decodeAll_eq_decodeEach (s : Sealing) (list : List Ticket) :
    s.decodeAll list = s.decodeEach list := by
  cases hactive : s.isActive with
  | true => rw [decodeAll, hactive, if_pos rfl]
  | false => rw [decodeAll, hactive, if_neg Bool.false_ne_true, decodeEach_of_inactive hactive]

theorem decodeAll_of_inactive (h : s.isActive = false) (list : List Ticket) :
    s.decodeAll list = .ok list := by
  rw [decodeAll_eq_decodeEach, decodeEach_of_inactive h]

/-! ### The two ways to end -/

/-- Some tickets of a list are opened, and the one after them fails with an error. -/
def StopsWith (s : Sealing) (list : List Ticket) (e : RegistryError) : Prop :=
  ∃ front stored back, list = front ++ stored :: back ∧
    (∀ before ∈ front, ∃ t, s.decode before = .ok t) ∧ s.decode stored = .error e

theorem stopsWith_cons_of_error (h : s.decode stored = .error e) {e' : RegistryError} :
    s.StopsWith (stored :: list) e' ↔ e = e' := by
  constructor
  · rintro ⟨front, stored', back, hlist, hfront, hfails⟩
    cases front with
    | nil =>
      obtain ⟨rfl, -⟩ := List.cons.inj hlist
      exact Except.error.inj (h.symm.trans hfails)
    | cons first front =>
      -- The list starts with a ticket that fails, so nothing is opened before it.
      obtain ⟨rfl, -⟩ := List.cons.inj hlist
      obtain ⟨t, ht⟩ := hfront stored List.mem_cons_self
      rw [h] at ht
      cases ht
  · rintro rfl
    exact ⟨[], stored, list, rfl, fun _ hnone => absurd hnone List.not_mem_nil, h⟩

theorem stopsWith_cons_of_ok (h : s.decode stored = .ok t) :
    s.StopsWith (stored :: list) e ↔ s.StopsWith list e := by
  constructor
  · rintro ⟨front, stored', back, hlist, hfront, hfails⟩
    cases front with
    | nil =>
      obtain ⟨rfl, -⟩ := List.cons.inj hlist
      rw [h] at hfails
      cases hfails
    | cons first front =>
      obtain ⟨-, rfl⟩ := List.cons.inj hlist
      exact ⟨front, stored', back, rfl,
        fun before hbefore => hfront before (List.mem_cons_of_mem _ hbefore), hfails⟩
  · rintro ⟨front, stored', back, rfl, hfront, hfails⟩
    refine ⟨stored :: front, stored', back, rfl, ?_, hfails⟩
    rw [List.forall_mem_cons]
    exact ⟨⟨t, h⟩, hfront⟩

/-- Opening in bulk succeeds exactly with what each ticket is opened to. -/
theorem decodeAll_eq_ok_iff :
    s.decodeAll list = .ok ts ↔ List.Forall₂ (fun stored t => s.decode stored = .ok t) list ts := by
  rw [decodeAll_eq_decodeEach]
  induction list generalizing ts with
  | nil => rw [decodeEach, Except.ok.injEq, List.forall₂_nil_left_iff, eq_comm]
  | cons stored rest ih =>
    rw [decodeEach]
    cases hfirst : s.decode stored with
    | error e =>
      refine iff_of_false (fun h => by cases h) fun h => ?_
      cases h with
      | cons ht _ =>
        rw [hfirst] at ht
        cases ht
    | ok t =>
      -- The first ticket is in place, and the others are by the induction.
      constructor
      · intro h
        obtain ⟨others, hothers, rfl⟩ := map_eq_ok_iff.1 h
        exact .cons hfirst (ih.1 hothers)
      · intro h
        cases h with
        | cons ht hothers =>
          obtain rfl := Except.ok.inj (hfirst.symm.trans ht)
          exact map_eq_ok_iff.2 ⟨_, ih.2 hothers, rfl⟩

/-- Opening in bulk fails exactly with the error of the first ticket that cannot be opened. -/
theorem decodeAll_eq_error_iff : s.decodeAll list = .error e ↔ s.StopsWith list e := by
  rw [decodeAll_eq_decodeEach]
  induction list with
  | nil =>
    refine iff_of_false (fun h => by cases h) ?_
    rintro ⟨front, stored, back, hlist, -⟩
    simp at hlist
  | cons stored rest ih =>
    rw [decodeEach]
    cases hfirst : s.decode stored with
    | error e' => rw [stopsWith_cons_of_error hfirst, Except.error.injEq]
    | ok t =>
      rw [stopsWith_cons_of_ok hfirst, ← ih]
      cases s.decodeEach rest <;> simp [Except.map]

/-- If every one of some tickets is opened, decoding gives what they are opened to. -/
theorem decodeAll_eq_ok (h : ∀ stored ∈ list, ∃ t, s.decode stored = .ok t) :
    s.decodeAll list = .ok (list.filterMap fun stored => (s.decode stored).toOption) := by
  rw [decodeAll_eq_ok_iff]
  induction list with
  | nil => exact .nil
  | cons stored rest ih =>
    obtain ⟨⟨t, ht⟩, hrest⟩ := List.forall_mem_cons.1 h
    simp only [List.filterMap_cons, ht, Except.toOption]
    exact .cons ht (ih hrest)

/-- Opening in bulk succeeds exactly if every ticket can be opened. -/
theorem exists_decodeAll_ok_iff :
    (∃ ts, s.decodeAll list = .ok ts) ↔ ∀ stored ∈ list, ∃ t, s.decode stored = .ok t := by
  constructor
  · rintro ⟨ts, h⟩
    rw [decodeAll_eq_ok_iff] at h
    induction h with
    | nil => exact fun stored hnone => absurd hnone List.not_mem_nil
    | cons hfirst _ ih => exact List.forall_mem_cons.2 ⟨⟨_, hfirst⟩, ih⟩
  · exact fun h => ⟨_, decodeAll_eq_ok h⟩

/-- Opening in bulk fails exactly if one of the tickets cannot be opened. -/
theorem exists_decodeAll_error_iff :
    (∃ e, s.decodeAll list = .error e) ↔ ∃ stored ∈ list, ∃ e, s.decode stored = .error e := by
  have hfails {α : Type} (r : Except RegistryError α) : (∃ e, r = .error e) ↔ ¬∃ a, r = .ok a := by
    cases r <;> simp
  simp only [hfails, exists_decodeAll_ok_iff, not_forall, exists_prop]

/-! ### What comes out -/

/-- What an active sealing opens is not sealed any more. -/
theorem isSealed_of_decode (hactive : s.isActive = true) (h : s.decode stored = .ok t) :
    t.isSealed = false := by
  cases hstored : stored.isSealed with
  | false =>
    rw [decode_of_not_isSealed s hstored] at h
    obtain rfl := Except.ok.inj h
    exact hstored
  | true =>
    obtain ⟨c, hc⟩ := isActive_iff.1 hactive
    cases stored with
    | sealed stored =>
      rw [decode_sealed hc] at h
      obtain ⟨-, -, -, hplain⟩ := opened_eq_ok_iff.1 h
      exact hplain
    | session _ | service _ | proxy _ => cases hstored

theorem forall_isSealed_of_decodeAll (hactive : s.isActive = true)
    (h : s.decodeAll list = .ok ts) : ∀ t ∈ ts, t.isSealed = false := by
  rw [decodeAll_eq_ok_iff] at h
  induction h with
  | nil => exact fun t hnone => absurd hnone List.not_mem_nil
  | cons hfirst _ ih => exact List.forall_mem_cons.2 ⟨isSealed_of_decode hactive hfirst, ih⟩

/-- Tickets that are not sealed come back, each in its place, whatever becomes of the others. -/
theorem forall₂_kept_of_decodeAll (h : s.decodeAll list = .ok ts) :
    List.Forall₂ (fun stored t => stored.isSealed = false → t = stored) list ts := by
  refine (decodeAll_eq_ok_iff.1 h).imp fun stored t hdecode hplain => ?_
  rw [decode_of_not_isSealed s hplain] at hdecode
  exact (Except.ok.inj hdecode).symm

/-- No cipher is needed where nothing is sealed. -/
theorem decodeAll_of_not_isSealed (s : Sealing) (h : ∀ stored ∈ list, stored.isSealed = false) :
    s.decodeAll list = .ok list := by
  rw [decodeAll_eq_ok_iff, List.forall₂_same]
  exact fun stored hstored => decode_of_not_isSealed s (h stored hstored)

/-! ### In bulk and one by one -/

/-- Opening a list of stored tickets agrees with opening each of them, with and without an active
cipher. It succeeds exactly if each of them can be opened, and gives exactly what they are opened
to, one for one and in order; otherwise it fails with the error of the first one that cannot be
opened. With an active cipher nothing that comes out is sealed. And a ticket that was not sealed
comes out in its place as it was; a list without sealed tickets comes out as it was, whatever the
cipher does. -/
theorem decodeAll_agrees (s : Sealing) (list : List Ticket) :
    ((∃ ts, s.decodeAll list = .ok ts) ↔ ∀ stored ∈ list, ∃ t, s.decode stored = .ok t) ∧
    (∀ ts, s.decodeAll list = .ok ts ↔
      List.Forall₂ (fun stored t => s.decode stored = .ok t) list ts) ∧
    (∀ e, s.decodeAll list = .error e ↔ s.StopsWith list e) ∧
    (s.isActive = true → ∀ ts, s.decodeAll list = .ok ts → ∀ t ∈ ts, t.isSealed = false) ∧
    (∀ ts, s.decodeAll list = .ok ts →
      List.Forall₂ (fun stored t => stored.isSealed = false → t = stored) list ts) ∧
    ((∀ stored ∈ list, stored.isSealed = false) → s.decodeAll list = .ok list) :=
  ⟨exists_decodeAll_ok_iff, fun _ => decodeAll_eq_ok_iff, fun _ => decodeAll_eq_error_iff,
    fun hactive _ => forall_isSealed_of_decodeAll hactive, fun _ => forall₂_kept_of_decodeAll,
    decodeAll_of_not_isSealed s⟩

/-- A session as it is, and a service ticket that was sealed. Without a cipher they stay as they
are, and with the cipher both are opened. A cipher that decrypts nothing stops at the sealed ticket,
and gives back a list without it. -/
theorem decodeAll_agrees_mixed :
    let now : Instant := ⟨⟨2024, 1, 1, by decide⟩, 0, 0, by decide, by decide⟩
    let login : Authentication := ⟨⟨"alice", .empty⟩, [], .empty, .empty, .empty, now⟩
    let session : Ticket := .session (.fresh "TGT-1" login now .never)
    let service : Ticket := .service ⟨"ST-2", now, .never, "TGT-1", ⟨"app"⟩, false⟩
    let c : Cipher := .masking 90 true
    let blind := withCipher (c.refusing Option.none (some "no key"))
    ∃ stored, (withCipher c).encode [] service = .ok stored ∧
      none.decodeAll [session, stored] = .ok [session, stored] ∧
      (withCipher c).decodeAll [session, stored] = .ok [session, service] ∧
      blind.decodeAll [session, stored, session] = .error (.crypto "no key") ∧
      blind.decodeAll [session, session] = .ok [session, session] := by
  intro now login session service c blind
  have hactive : (withCipher c).active? = some c := rfl
  have hround : c.RoundTrips := Cipher.roundTrips_masking 90 true
  have hbytes : Layout.ticket.serialize service = .ok (Layout.ticket.write service) :=
    if_pos (by decide)
  have hstored : (withCipher c).encode [] service = .ok _ :=
    (encode_eq_ok_iff hactive rfl).2 ⟨_, _, hbytes, rfl, rfl⟩
  have hopened := decode_of_encode hactive hround rfl rfl hstored
  refine ⟨_, hstored, ?_, ?_, ?_, ?_⟩
  · exact ((decodeAll_agrees none _).2.1 _).2 (.cons rfl (.cons rfl .nil))
  · exact ((decodeAll_agrees (withCipher c) _).2.1 _).2 (.cons rfl (.cons hopened .nil))
  · refine ((decodeAll_agrees blind _).2.2.1 _).2 ⟨[session], _, [session], rfl, ?_, rfl⟩
    exact List.forall_mem_singleton.2 ⟨session, rfl⟩
  · refine (decodeAll_agrees blind _).2.2.2.2.2 ?_
    exact List.forall_mem_cons.2 ⟨rfl, List.forall_mem_singleton.2 rfl⟩

end SignOn.Sealing
