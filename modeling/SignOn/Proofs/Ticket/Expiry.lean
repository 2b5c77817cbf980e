import SignOn.Proofs.Calendar.Elapsed
import SignOn.Ticket.Basic

/-!
# Expiry

A timeout compares the whole seconds since the creation with the lifetime. Both are truncated toward
zero, so a positive lifetime is over when exactly that time has passed, and any other one up to a
second before.

As time goes on an expired ticket stays expired, unless the time since its creation gets shorter,
which it does around leap seconds only. A ticket may be expired during a leap second and valid again
in the second after it.

## Main definitions

* `Ticket.term?` - when a ticket was created, and its policy
* `ExpirationPolicy.isExpiredBounded?` - expiry in numbers of bounded size

## Main results

* `Ticket.isExpired_stays` - what an expired ticket takes to be valid again
* `Ticket.isExpired_lost` - a ticket that is valid again after a leap second
* `ExpirationPolicy.timeout_ends` - where a timeout ends, made from a duration or with any lifetime,
  and that no number is too large
-/

namespace SignOn

/-! ### Whole seconds -/

section WholeSeconds

variable {nanos seconds : Int}

theorem le_tdiv_of_pos (h : 1 ≤ seconds) :
    seconds ≤ nanos.tdiv nanosPerSecond ↔ seconds * nanosPerSecond ≤ nanos := by
  have hsign : (nanosPerSecond : Int).sign = 1 := rfl
  rw [Int.tdiv_eq_ediv, hsign]
  split <;> simp only [nanosPerSecond] at * <;> omega

/-- Truncation reaches a number that is not positive up to a second before. -/
theorem le_tdiv_of_nonpos (h : seconds ≤ 0) :
    seconds ≤ nanos.tdiv nanosPerSecond ↔ (seconds - 1) * nanosPerSecond < nanos := by
  have hsign : (nanosPerSecond : Int).sign = 1 := rfl
  rw [Int.tdiv_eq_ediv, hsign]
  split <;> simp only [nanosPerSecond] at * <;> omega

theorem tdiv_mono {nanos' : Int} (h : nanos ≤ nanos') :
    nanos.tdiv nanosPerSecond ≤ nanos'.tdiv nanosPerSecond :=
  Int.tdiv_le_tdiv (by decide) h

/-- A word holds the whole seconds of a duration. -/
theorem Duration.toInt_ofInt_wholeSeconds (d : Duration) :
    (Int64.ofInt d.wholeSeconds).toInt = d.wholeSeconds := by
  have h := d.natAbs_wholeSeconds_le
  exact Int64.toInt_ofInt_of_le (by omega) (by omega)

end WholeSeconds

namespace ExpirationPolicy

variable {created now : Instant} {lifetime : Int64}

/-! ### Timeouts -/

theorem isExpired_after_iff : (after lifetime).isExpired created now = true ↔
    lifetime.toInt ≤ now.wholeSecondsSince created :=
  decide_eq_true_iff

theorem isExpired_timeout_iff {d : Duration} : (timeout d).isExpired created now = true ↔
    d.wholeSeconds ≤ now.wholeSecondsSince created := by
  rw [timeout, isExpired_after_iff, d.toInt_ofInt_wholeSeconds]

/-- A timeout is over when its duration is, and not yet a second before. -/
theorem isExpired_timeout (d : Duration) :
    (d.nanos ≤ now.since created → (timeout d).isExpired created now = true) ∧
      (nanosPerSecond ≤ d.nanos → now.since created ≤ d.nanos - nanosPerSecond →
        (timeout d).isExpired created now = false) := by
  refine ⟨fun h => isExpired_timeout_iff.2 (tdiv_mono h), fun hpos h => ?_⟩
  rw [← Bool.not_eq_true, isExpired_timeout_iff]
  intro hle
  have hone : 1 ≤ d.wholeSeconds := (le_tdiv_of_pos (Int.le_refl 1)).2 (by omega)
  have hpassed := (le_tdiv_of_pos hone).1 hle
  -- Otherwise the duration has one whole second more than it has.
  have hmore : d.wholeSeconds + 1 ≤ d.wholeSeconds :=
    (le_tdiv_of_pos (by omega)).2 (by rw [Int.add_mul]; omega)
  omega

/-- A positive lifetime is over exactly when it has passed, another one up to a second before. -/
theorem isExpired_after (lifetime : Int64) :
    (1 ≤ lifetime.toInt → ((after lifetime).isExpired created now = true ↔
        lifetime.toInt * nanosPerSecond ≤ now.since created)) ∧
      (lifetime.toInt ≤ 0 → ((after lifetime).isExpired created now = true ↔
        (lifetime.toInt - 1) * nanosPerSecond < now.since created)) :=
  ⟨fun h => isExpired_after_iff.trans (le_tdiv_of_pos h),
    fun h => isExpired_after_iff.trans (le_tdiv_of_nonpos h)⟩

/-- Whether a ticket is expired, with the time since its creation in steps that have to be
durations, and with its whole seconds in a word of sixty-four bits. -/
def isExpiredBounded? (policy : ExpirationPolicy) (created now : Instant) : Option Bool :=
  match policy with
  | never => some false
  | always => some true
  | after lifetime => (now.elapsed? created).map fun d => lifetime ≤ Int64.ofInt d.wholeSeconds

/-- No number is too large for its place, over the whole calendar. -/
theorem isExpiredBounded?_eq (policy : ExpirationPolicy) (created now : Instant) :
    policy.isExpiredBounded? created now = some (policy.isExpired created now) := by
  cases policy with
  | never => rfl
  | always => rfl
  | after lifetime =>
    obtain ⟨d, hd, hnanos⟩ := now.exists_elapsed? created
    have hseconds : d.wholeSeconds = now.wholeSecondsSince created := by
      rw [Duration.wholeSeconds, hnanos, Instant.wholeSecondsSince]
    rw [isExpiredBounded?, hd, Option.map_some, isExpired]
    refine congrArg some (decide_eq_decide.2 ?_)
    rw [Int64.le_iff_toInt_le, d.toInt_ofInt_wholeSeconds, hseconds]

/-- Outside leap seconds, exactly one time has passed since the creation, over the whole calendar. A
timeout made from a duration is over when the duration has passed, and not yet when a second or more
is missing, if the duration has a second at least. A positive lifetime is over exactly when as many
seconds have passed, and any other one exactly when more than one second less has passed. No number
is too large for its place, in leap seconds neither. -/
theorem timeout_ends (hcreated : created.isLeap = false) (hnow : now.isLeap = false) :
    ∃ elapsed, (∀ x, Instant.Elapsed created now x ↔ x = elapsed) ∧
      (∀ d : Duration, (d.nanos ≤ elapsed → (timeout d).isExpired created now = true) ∧
        (nanosPerSecond ≤ d.nanos → elapsed ≤ d.nanos - nanosPerSecond →
          (timeout d).isExpired created now = false)) ∧
      (∀ lifetime : Int64,
        (1 ≤ lifetime.toInt → ((after lifetime).isExpired created now = true ↔
          lifetime.toInt * nanosPerSecond ≤ elapsed)) ∧
        (lifetime.toInt ≤ 0 → ((after lifetime).isExpired created now = true ↔
          (lifetime.toInt - 1) * nanosPerSecond < elapsed))) ∧
      ∀ (policy : ExpirationPolicy) (i j : Instant),
        policy.isExpiredBounded? i j = some (policy.isExpired i j) :=
  ⟨now.since created, fun _ => Instant.elapsed_iff_of_not_leap hcreated hnow, isExpired_timeout,
    isExpired_after, isExpiredBounded?_eq⟩

/-- From noon before a leap day to noon after it, less a quarter of a second. -/
theorem timeout_ends_leapDay :
    let created : Instant :=
      ⟨⟨2024, 2, 28, by decide⟩, 43200, 500000000, by decide, by decide⟩
    let now : Instant :=
      ⟨⟨2024, 3, 1, by decide⟩, 43200, 250000000, by decide, by decide⟩
    created.isLeap = false ∧ now.isLeap = false ∧ Instant.Elapsed created now 172799750000000 ∧
      (after 172799).isExpired created now = true ∧
      ¬ (after 172800).isExpired created now = true ∧
      (timeout ⟨172800750000000, by decide⟩).isExpired created now = false := by
  intro created now
  obtain ⟨elapsed, hunique, hduration, hlifetime, -⟩ :=
    @timeout_ends created now (by decide) (by decide)
  have helapsed : Instant.Elapsed created now 172799750000000 :=
    ⟨2, .onwards (n := 2) (by decide), by decide⟩
  obtain rfl := (hunique _).1 helapsed
  refine ⟨by decide, by decide, helapsed, ?_, ?_, ?_⟩
  · exact ((hlifetime 172799).1 (by decide)).2 (by decide)
  · exact fun h => absurd (((hlifetime 172800).1 (by decide)).1 h) (by decide)
  · exact (hduration ⟨172800750000000, by decide⟩).2 (by decide) (by decide)

end ExpirationPolicy

namespace Ticket

variable {t : Ticket} {earlier later : Instant}

/-! ### Tickets as time goes on -/

/-- When a ticket was created, and its policy; a sealed ticket tells neither. -/
def term? : Ticket → Option (Instant × ExpirationPolicy)
  | session t => some (t.created, t.policy)
  | service t => some (t.created, t.policy)
  | proxy t => some (t.body.created, t.body.policy)
  | sealed _ => none

theorem isExpired_eq (t : Ticket) (now : Instant) :
    t.isExpired now = t.term?.any fun term => term.2.isExpired term.1 now := by
  cases t <;> rfl

/-- A ticket that is valid again has a timeout, and the time since its creation got shorter. -/
theorem exists_stepsBack (hexpired : t.isExpired earlier = true)
    (hvalid : t.isExpired later = false) :
    ∃ created lifetime, t.term? = some (created, .after lifetime) ∧
      Instant.StepsBack created earlier later ∧
        later.wholeSecondsSince created < lifetime.toInt := by
  rw [isExpired_eq] at hexpired hvalid
  cases hterm : t.term? with
  | none =>
    rw [hterm] at hexpired
    cases hexpired
  | some term =>
    obtain ⟨created, policy⟩ := term
    rw [hterm, Option.any_some] at hexpired hvalid
    cases policy with
    | never => cases hexpired
    | always => cases hvalid
    | after lifetime =>
      rw [ExpirationPolicy.isExpired_after_iff] at hexpired
      rw [← Bool.not_eq_true, ExpirationPolicy.isExpired_after_iff, Int.not_le] at hvalid
      refine ⟨created, lifetime, rfl, Instant.stepsBack_iff.2 ?_, hvalid⟩
      refine Int.not_le.1 fun hle => ?_
      have := tdiv_mono hle
      simp only [Instant.wholeSecondsSince] at hexpired hvalid
      omega

/-- An expired ticket is valid again exactly if it has a timeout, the time since its creation steps
back, and its whole seconds fall short of the lifetime. The time steps back where a clock without
leap seconds gains less than the leap seconds that count no longer. It takes a leap second, in which
the ticket was created or one of the two instants lies; the clock gains less than two seconds
meanwhile, and the time loses less than two. -/
theorem isExpired_stays (t : Ticket) (horder : ¬ later.Before earlier)
    (hexpired : t.isExpired earlier = true) :
    (t.isExpired later = false ↔ ∃ created lifetime, t.term? = some (created, .after lifetime) ∧
      Instant.StepsBack created earlier later ∧
        later.wholeSecondsSince created < lifetime.toInt) ∧
      ∀ created, Instant.StepsBack created earlier later →
        (created.isLeap = true ∨ earlier.isLeap = true ∨ later.isLeap = true) ∧
          later.clock - earlier.clock < 2 * nanosPerSecond ∧
            earlier.since created - later.since created < 2 * nanosPerSecond := by
  refine ⟨⟨exists_stepsBack hexpired, ?_⟩, fun created h =>
    ⟨h.exists_leap horder, h.lt_two_seconds horder⟩⟩
  rintro ⟨created, lifetime, hterm, -, hlt⟩
  rw [isExpired_eq, hterm, Option.any_some, ← Bool.not_eq_true,
    ExpirationPolicy.isExpired_after_iff, Int.not_le]
  exact hlt

/-- A service ticket for ten seconds, at the end of a year with a leap second: expired at the end of
the leap second, and also one second later. -/
theorem isExpired_stays_newYear :
    let created : Instant :=
      ⟨⟨2016, 12, 31, by decide⟩, 86390, 500000000, by decide, by decide⟩
    let leap : Instant :=
      ⟨⟨2016, 12, 31, by decide⟩, 86399, 1900000000, by decide, by decide⟩
    let soon : Instant := ⟨⟨2017, 1, 1, by decide⟩, 1, 0, by decide, by decide⟩
    let t : Ticket := .service ⟨"ST-1", created, .after 10, "TGT-1", ⟨"app"⟩, false⟩
    ¬ soon.Before leap ∧ t.isExpired leap = true ∧ t.isExpired soon = true := by
  intro created leap soon t
  have hstays := (@isExpired_stays leap soon t (by decide) (by decide)).1
  refine ⟨by decide, by decide, ?_⟩
  rw [← Bool.not_eq_false, hstays]
  rintro ⟨_, _, hterm, hback, -⟩
  obtain ⟨rfl, -⟩ := Prod.mk.inj (Option.some.inj hterm)
  revert hback
  decide

/-- Right after the leap second, the same ticket is valid again. -/
theorem isExpired_lost :
    let created : Instant :=
      ⟨⟨2016, 12, 31, by decide⟩, 86390, 500000000, by decide, by decide⟩
    let leap : Instant :=
      ⟨⟨2016, 12, 31, by decide⟩, 86399, 1900000000, by decide, by decide⟩
    let next : Instant :=
      ⟨⟨2017, 1, 1, by decide⟩, 0, 200000000, by decide, by decide⟩
    let t : Ticket := .service ⟨"ST-1", created, .after 10, "TGT-1", ⟨"app"⟩, false⟩
    ¬ next.Before leap ∧ t.isExpired leap = true ∧ t.isExpired next = false := by
  decide

end Ticket

end SignOn
