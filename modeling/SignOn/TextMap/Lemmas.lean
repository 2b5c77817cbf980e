import SignOn.TextMap.Basic

/-!
# Look-ups in maps keyed by text

What each operation does to the look-ups, and the fact that look-ups determine a map.

## Main results

* `TextMap.get?_insert`, `TextMap.get?_erase`, `TextMap.get?_map` - one equation per operation
* `TextMap.ext` - maps with the same look-ups are equal
* `TextMap.ofList_entries` - a map is the map of its entries
-/

namespace SignOn.TextMap

universe u v

variable {α : Type u} {β : Type v} {m n : TextMap α} {key other : String} {a b : α}

/-! ### Look-ups in sorted entries -/

theorem lookup_insertEntry (key other : String) (a : α) (entries : List (String × α)) :
    lookup other (insertEntry key a entries) =
      if other = key then some a else lookup other entries := by
  induction entries with
  | nil => rfl
  | cons head rest ih =>
    obtain ⟨k, b⟩ := head
    simp only [insertEntry]
    split
    · rfl
    · split
      next h => subst h; simp only [lookup]; split <;> rfl
      next h =>
        simp only [lookup, ih]
        split
        next h' =>
          subst h'
          simp [Ne.symm h]
        · rfl

theorem lookup_filter (key other : String) (entries : List (String × α)) :
    lookup other (entries.filter fun e => e.1 ≠ key) =
      if other = key then none else lookup other entries := by
  induction entries with
  | nil => simp [lookup]
  | cons head rest ih =>
    obtain ⟨k, b⟩ := head
    by_cases hk : k = key
    · subst hk
      simp only [ne_eq, not_true_eq_false, decide_false, List.filter_cons_of_neg,
        Bool.false_eq_true, not_false_eq_true, lookup]
      rw [ih]
      split <;> rfl
    · rw [List.filter_cons_of_pos (by simpa using hk)]
      simp only [lookup, ih]
      split
      next h => subst h; simp [hk]
      · rfl

theorem lookup_map (f : α → β) (key : String) (entries : List (String × α)) :
    lookup key (entries.map fun e => (e.1, f e.2)) = (lookup key entries).map f := by
  induction entries with
  | nil => rfl
  | cons head rest ih =>
    simp only [List.map_cons, lookup, ih]
    split <;> rfl

theorem mem_of_lookup {entries : List (String × α)} (h : lookup key entries = some a) :
    (key, a) ∈ entries := by
  induction entries with
  | nil => simp [lookup] at h
  | cons head rest ih =>
    obtain ⟨k, b⟩ := head
    simp only [lookup] at h
    split at h
    next hk => obtain rfl := Option.some.inj h; subst hk; exact List.mem_cons_self
    next => exact List.mem_cons_of_mem _ (ih h)

theorem lookup_of_mem {entries : List (String × α)} (hs : Sorted entries) (h : (key, a) ∈ entries) :
    lookup key entries = some a := by
  induction entries with
  | nil => simp at h
  | cons head rest ih =>
    obtain ⟨k, b⟩ := head
    obtain ⟨hk, hrest⟩ := List.pairwise_cons.1 hs
    rcases List.mem_cons.1 h with h | h
    · obtain ⟨rfl, rfl⟩ := Prod.mk.inj h
      simp [lookup]
    · have hlt := hk _ h
      have hne : key ≠ k := fun e => String.lt_irrefl _ (e ▸ hlt)
      simp [lookup, hne, ih hrest h]

/-! ### Look-ups in maps -/

@[simp] theorem get?_empty (key : String) : (empty : TextMap α).get? key = none := rfl

theorem get?_insert (m : TextMap α) (key other : String) (a : α) :
    (m.insert key a).get? other = if other = key then some a else m.get? other :=
  lookup_insertEntry key other a m.entries

@[simp] theorem get?_insert_self (m : TextMap α) (key : String) (a : α) :
    (m.insert key a).get? key = some a := by
  simp [get?_insert]

theorem get?_insert_of_ne (m : TextMap α) (a : α) (h : other ≠ key) :
    (m.insert key a).get? other = m.get? other := by
  simp [get?_insert, h]

theorem get?_erase (m : TextMap α) (key other : String) :
    (m.erase key).get? other = if other = key then none else m.get? other :=
  lookup_filter key other m.entries

theorem get?_erase_of_ne (m : TextMap α) (h : other ≠ key) :
    (m.erase key).get? other = m.get? other := by
  simp [get?_erase, h]

@[simp] theorem get?_map (f : α → β) (m : TextMap α) (key : String) :
    (m.map f).get? key = (m.get? key).map f :=
  lookup_map f key m.entries

theorem mem_entries_iff : (key, a) ∈ m.entries ↔ m.get? key = some a :=
  ⟨lookup_of_mem m.sorted, mem_of_lookup⟩

theorem mem_keys_iff : key ∈ m.keys ↔ ∃ a, m.get? key = some a := by
  simp only [keys, List.mem_map, Prod.exists, exists_and_right, exists_eq_right]
  exact ⟨fun ⟨a, h⟩ => ⟨a, mem_entries_iff.1 h⟩, fun ⟨a, h⟩ => ⟨a, mem_entries_iff.2 h⟩⟩

theorem get?_eq_none_iff : m.get? key = none ↔ key ∉ m.keys := by
  rw [mem_keys_iff, Option.eq_none_iff_forall_ne_some, not_exists]

theorem contains_iff : m.contains key = true ↔ ∃ a, m.get? key = some a := by
  simp [contains, Option.isSome_iff_exists]

/-! ### Equality -/

theorem eq_of_lookup_eq : ∀ {xs ys : List (String × α)}, Sorted xs → Sorted ys →
    (∀ key, lookup key xs = lookup key ys) → xs = ys
  | [], [], _, _, _ => rfl
  | [], (k, b) :: ys, _, _, h => by simpa [lookup] using h k
  | (k, a) :: xs, [], _, _, h => by simpa [lookup] using h k
  | (k, a) :: xs, (l, b) :: ys, hx, hy, h => by
    obtain ⟨hkx, hxs⟩ := List.pairwise_cons.1 hx
    obtain ⟨hly, hys⟩ := List.pairwise_cons.1 hy
    have hkl : k = l := by
      refine Decidable.byContradiction fun hne => ?_
      have h₁ : (l, b) ∈ (k, a) :: xs := mem_of_lookup (by rw [h l]; simp [lookup])
      have h₂ : (k, a) ∈ (l, b) :: ys := mem_of_lookup (by rw [← h k]; simp [lookup])
      have h₁ := (List.mem_cons.1 h₁).resolve_left fun e => hne (Prod.mk.inj e).1.symm
      have h₂ := (List.mem_cons.1 h₂).resolve_left fun e => hne (Prod.mk.inj e).1
      exact String.lt_asymm (hkx _ h₁) (hly _ h₂)
    subst hkl
    have hab : a = b := by simpa [lookup] using h k
    subst hab
    have hrest : ∀ key, lookup key xs = lookup key ys := by
      intro key
      by_cases hk : key = k
      · subst hk
        have none_of : ∀ {zs : List (String × α)}, (∀ e ∈ zs, key < e.1) →
            lookup key zs = none := by
          intro zs hz
          refine Option.eq_none_iff_forall_ne_some.2 fun c hc => ?_
          exact String.lt_irrefl _ (hz _ (mem_of_lookup hc))
        rw [none_of hkx, none_of hly]
      · simpa [lookup, hk] using h key
    rw [eq_of_lookup_eq hxs hys hrest]

/-- Look-ups determine a map. -/
theorem ext (h : ∀ key, m.get? key = n.get? key) : m = n :=
  ext_entries (eq_of_lookup_eq m.sorted n.sorted h)

theorem insert_insert (m : TextMap α) (key : String) (a b : α) :
    (m.insert key a).insert key b = m.insert key b :=
  ext fun other => by simp only [get?_insert]; split <;> rfl

theorem erase_insert (m : TextMap α) (key : String) (a : α) :
    (m.insert key a).erase key = m.erase key :=
  ext fun other => by simp only [get?_erase, get?_insert]; split <;> rfl

theorem erase_of_get?_eq_none (h : m.get? key = none) : m.erase key = m :=
  ext fun other => by
    rw [get?_erase]
    split
    next e => rw [e, h]
    · rfl

theorem insert_of_get?_eq_some (h : m.get? key = some a) : m.insert key a = m :=
  ext fun other => by
    rw [get?_insert]
    split
    next e => rw [e, h]
    · rfl

/-! ### Maps from lists -/

theorem insertMany_cons (m : TextMap α) (e : String × α) (es : List (String × α)) :
    m.insertMany (e :: es) = (m.insert e.1 e.2).insertMany es := rfl

theorem get?_insertMany (m : TextMap α) (es : List (String × α)) (key : String) :
    (m.insertMany es).get? key = (lookup key es.reverse).or (m.get? key) := by
  induction es generalizing m with
  | nil => rfl
  | cons e es ih =>
    have happ : ∀ (xs ys : List (String × α)),
        lookup key (xs ++ ys) = (lookup key xs).or (lookup key ys) := by
      intro xs ys
      induction xs with
      | nil => simp [lookup]
      | cons x xs ihx =>
        simp only [List.cons_append, lookup, ihx]
        split <;> simp
    rw [insertMany_cons, ih, List.reverse_cons, happ, get?_insert, Option.or_assoc]
    congr 1
    simp only [lookup]
    split <;> simp

/-- A map is the map of its entries. -/
theorem ofList_entries (m : TextMap α) : ofList m.entries = m := by
  refine ext fun key => ?_
  rw [ofList, get?_insertMany, get?_empty, Option.or_none]
  have hrev : ∀ a, lookup key m.entries.reverse = some a ↔ m.get? key = some a := by
    intro a
    constructor
    · intro h
      exact mem_entries_iff.1 (List.mem_reverse.1 (mem_of_lookup h))
    · intro h
      have hmem := List.mem_reverse.2 (mem_entries_iff.2 h)
      generalize hes : m.entries.reverse = es at hmem
      have hall : ∀ b, (key, b) ∈ es → b = a := fun b hb =>
        Option.some.inj ((mem_entries_iff.1 (List.mem_reverse.1 (hes ▸ hb))).symm.trans h)
      clear hes
      induction es with
      | nil => simp at hmem
      | cons e es ih =>
        obtain ⟨k, b⟩ := e
        simp only [lookup]
        split
        next hk => subst hk; rw [hall b List.mem_cons_self]
        next hk =>
          refine ih ((List.mem_cons.1 hmem).resolve_left fun e => hk (Prod.mk.inj e).1) ?_
          exact fun b hb => hall b (List.mem_cons_of_mem _ hb)
  cases hget : m.get? key with
  | some a => exact (hrev a).2 hget
  | none =>
    refine Option.eq_none_iff_forall_ne_some.2 fun a ha => ?_
    rw [(hrev a).1 ha] at hget
    exact absurd hget (by simp)

/-! ### Sizes -/

theorem isEmpty_iff : m.isEmpty = true ↔ m = empty := by
  rw [isEmpty, List.isEmpty_iff]
  exact ⟨fun h => ext_entries h, fun h => h ▸ rfl⟩

theorem length_keys (m : TextMap α) : m.keys.length = m.size := by simp [keys, size]

theorem nodup_keys (m : TextMap α) : m.keys.Nodup := by
  refine List.pairwise_map.2 (m.sorted.imp ?_)
  intro a b h e
  exact String.lt_irrefl _ (e ▸ h)

end SignOn.TextMap
