import Mathlib.Algebra.Ring.Nat
import Mathlib.Data.List.Basic
import SignOn.Store.Memory

/-!
# What the store in memory does

Putting and deleting change the look-up of one key and the number of tickets by at most one.

## Main definitions

* `MemoryStore.size` - how many tickets there are
* `MemoryStore.Removes` - one store is another one without what was under some keys
* `MemoryStore.lost` - the keys that only the first of two stores has
* `MemoryStore.Sheds` - one store has only keys of another one, whatever is under them

## Main results

* `MemoryStore.get?_put`, `MemoryStore.get?_delete` - what is found afterwards
* `MemoryStore.size_put`, `MemoryStore.size_delete` - how many tickets there are afterwards
* `MemoryStore.removes_delete`, `MemoryStore.Removes.trans` - removals one by one
* `MemoryStore.Removes.eq_length` - a removal of different stored keys counts all of them
* `MemoryStore.Sheds.eq_length` - the difference of the sizes counts the keys that are lost
-/

namespace SignOn

/-! ### Sizes of maps -/

namespace TextMap

universe u v

variable {α : Type u} {β : Type v} {m : TextMap α} {n : TextMap β} {key : String}

theorem contains_eq_false_iff : m.contains key = false ↔ m.get? key = none := by
  simp [contains]

theorem mem_keys_iff_contains : key ∈ m.keys ↔ m.contains key = true := by
  rw [mem_keys_iff, contains_iff]

theorem mem_keys_iff_ne_none : key ∈ m.keys ↔ m.get? key ≠ none := by
  rw [mem_keys_iff, ← Option.isSome_iff_exists, Option.isSome_iff_ne_none]

theorem mem_keys_insert (m : TextMap α) (key other : String) (a : α) :
    other ∈ (m.insert key a).keys ↔ other = key ∨ other ∈ m.keys := by
  simp only [mem_keys_iff, get?_insert]
  by_cases h : other = key <;> simp [h]

theorem mem_keys_erase (m : TextMap α) (key other : String) :
    other ∈ (m.erase key).keys ↔ other ≠ key ∧ other ∈ m.keys := by
  simp only [mem_keys_iff, get?_erase]
  by_cases h : other = key <;> simp [h]

/-- A map without repetitions has as many entries as a list of its keys without repetitions. -/
theorem size_eq_length {keys : List String} (hnodup : keys.Nodup)
    (h : ∀ key, key ∈ m.keys ↔ key ∈ keys) : m.size = keys.length := by
  rw [← length_keys]
  exact ((List.perm_ext_iff_of_nodup m.nodup_keys hnodup).2 h).length_eq

theorem size_erase (m : TextMap α) (key : String) :
    (m.contains key).toNat + (m.erase key).size = m.size := by
  cases h : m.contains key with
  | false => rw [erase_of_get?_eq_none (contains_eq_false_iff.1 h), Bool.toNat_false, Nat.zero_add]
  | true =>
    have hnodup : (key :: (m.erase key).keys).Nodup := by
      refine List.nodup_cons.2 ⟨fun hmem => ?_, nodup_keys _⟩
      exact ((mem_keys_erase m key key).1 hmem).1 rfl
    rw [@size_eq_length _ m _ hnodup, List.length_cons, length_keys, Bool.toNat_true, Nat.add_comm]
    intro other
    rw [List.mem_cons, mem_keys_erase]
    by_cases he : other = key
    · simp [he, mem_keys_iff_contains, h]
    · simp [he]

theorem size_insert (m : TextMap α) (key : String) (a : α) :
    (m.contains key).toNat + (m.insert key a).size = m.size + 1 := by
  have herase := size_erase m key
  have hinsert := size_erase (m.insert key a) key
  rw [erase_insert, contains, get?_insert_self, Option.isSome_some, Bool.toNat_true] at hinsert
  omega

theorem size_insert_of_get?_eq_some {a b : α} (h : m.get? key = some a) :
    (m.insert key b).size = m.size := by
  have hsize := size_insert m key b
  rw [contains, h, Option.isSome_some, Bool.toNat_true] at hsize
  omega

end TextMap

namespace MemoryStore

variable {m m₁ m₂ : MemoryStore} {key : String} {keys keys₁ keys₂ : List String} {n n₁ n₂ : Nat}

/-- How many tickets there are. -/
def size (m : MemoryStore) : Nat := m.entries.size

/-! ### Putting and deleting -/

theorem get?_put (m : MemoryStore) (key other : String) (t : Ticket) :
    (m.put key t).get? other = if other = key then some t else m.get? other :=
  TextMap.get?_insert m.entries key other t

@[simp] theorem get?_put_self (m : MemoryStore) (key : String) (t : Ticket) :
    (m.put key t).get? key = some t :=
  TextMap.get?_insert_self m.entries key t

theorem get?_put_of_ne (m : MemoryStore) (t : Ticket) {other : String} (h : other ≠ key) :
    (m.put key t).get? other = m.get? other :=
  TextMap.get?_insert_of_ne m.entries t h

theorem get?_delete (m : MemoryStore) (key other : String) :
    (m.delete key).get? other = if other = key then none else m.get? other := by
  rw [get?, entries_delete, TextMap.get?_erase, get?]

/-- What is left after a deletion was there before. -/
theorem get?_of_get?_delete {other : String} {t : Ticket} (h : (m.delete key).get? other = some t) :
    m.get? other = some t := by
  rw [get?_delete] at h
  split at h
  · cases h
  · exact h

/-- Putting a ticket in the place of another one. -/
theorem size_put {t old : Ticket} (h : m.get? key = some old) : (m.put key t).size = m.size :=
  TextMap.size_insert_of_get?_eq_some h

theorem size_delete (m : MemoryStore) (key : String) :
    (m.entries.contains key).toNat + (m.delete key).size = m.size := by
  rw [size, entries_delete, TextMap.size_erase, size]

/-- Only a deletion that finds a ticket is a write. -/
theorem writes_delete (m : MemoryStore) (key : String) :
    (m.delete key).writes = m.writes + (m.entries.contains key).toNat := by
  unfold delete
  by_cases h : m.entries.contains key = true
  · rw [if_pos h, h]
    rfl
  · rw [if_neg h]
    rw [Bool.not_eq_true] at h
    rw [h]
    rfl

/-! ### Removals -/

/-- A store without what was under some keys; `n` tickets were removed. -/
structure Removes (m : MemoryStore) (keys : List String) (n : Nat) (m' : MemoryStore) : Prop where
  get?_eq : ∀ key, m'.get? key = if key ∈ keys then none else m.get? key
  size_eq : n + m'.size = m.size

theorem Removes.refl (m : MemoryStore) : m.Removes [] 0 m :=
  ⟨fun key => by rw [if_neg List.not_mem_nil], Nat.zero_add _⟩

theorem removes_delete (m : MemoryStore) (key : String) :
    m.Removes [key] (m.entries.contains key).toNat (m.delete key) := by
  refine ⟨fun other => ?_, size_delete m key⟩
  rw [get?_delete]
  simp only [List.mem_singleton]

theorem Removes.trans (h₁ : m.Removes keys₁ n₁ m₁) (h₂ : m₁.Removes keys₂ n₂ m₂) :
    m.Removes (keys₁ ++ keys₂) (n₁ + n₂) m₂ := by
  refine ⟨fun key => ?_, ?_⟩
  · rw [h₂.get?_eq, h₁.get?_eq]
    by_cases hk₁ : key ∈ keys₁ <;> by_cases hk₂ : key ∈ keys₂ <;> simp [hk₁, hk₂]
  · have hsize₁ := h₁.size_eq
    have hsize₂ := h₂.size_eq
    omega

theorem Removes.get?_of_not_mem (h : m.Removes keys n m₁) (hkey : key ∉ keys) :
    m₁.get? key = m.get? key := by
  rw [h.get?_eq, if_neg hkey]

/-- A removal depends on the tickets alone, not on the number of writes. -/
theorem Removes.congr {m₃ : MemoryStore} (h : m.Removes keys n m₁)
    (hentries : m.entries = m₃.entries) : m₃.Removes keys n m₁ := by
  refine ⟨fun key => ?_, ?_⟩
  · rw [h.get?_eq, get?, get?, hentries]
  · rw [h.size_eq, size, size, hentries]

theorem removes_put_self {t : Ticket} (h : m.get? key = some t) : (m.put key t).Removes [] 0 m := by
  refine (Removes.refl m).congr ?_
  rw [entries_put, TextMap.insert_of_get?_eq_some h]

/-- Putting a ticket in the place of another one commutes with the removal of other keys. -/
theorem Removes.put {t old : Ticket} (h : m.Removes keys n m₁) (hkey : key ∉ keys)
    (hold : m.get? key = some old) : (m.put key t).Removes keys n (m₁.put key t) := by
  have hold₁ : m₁.get? key = some old := (h.get?_of_not_mem hkey).trans hold
  refine ⟨fun other => ?_, ?_⟩
  · rw [get?_put, get?_put, h.get?_eq]
    by_cases hother : other = key
    · rw [if_pos hother, if_pos hother, if_neg (hother ▸ hkey)]
    · rw [if_neg hother, if_neg hother]
  · rw [size_put hold, size_put hold₁, h.size_eq]

theorem Removes.of_put_put {t t' : Ticket} (h : ((m.put key t).put key t').Removes keys n m₁) :
    (m.put key t').Removes keys n m₁ :=
  h.congr (TextMap.insert_insert m.entries key t t')

/-- A ticket that is removed may have been put in the place of another one before. -/
theorem Removes.of_put {t old : Ticket} (h : (m.put key t).Removes keys n m₁) (hkey : key ∈ keys)
    (hold : m.get? key = some old) : m.Removes keys n m₁ := by
  refine ⟨fun other => ?_, ?_⟩
  · rw [h.get?_eq, get?_put]
    by_cases hother : other = key
    · rw [if_pos (hother ▸ hkey), if_pos (hother ▸ hkey)]
    · rw [if_neg hother]
  · rw [h.size_eq, size_put hold]

/-- A removal of different keys that were all stored counts every one of them. -/
theorem Removes.eq_length (h : m.Removes keys n m₁) (hnodup : keys.Nodup)
    (hstored : ∀ key ∈ keys, m.get? key ≠ none) : n = keys.length := by
  -- The keys that are left and the removed ones are together the keys from before, each once.
  have hall : (keys ++ m₁.entries.keys).Nodup := by
    refine List.nodup_append.2 ⟨hnodup, TextMap.nodup_keys _, ?_⟩
    rintro key hkey other hother rfl
    obtain ⟨t, ht⟩ := TextMap.mem_keys_iff.1 hother
    have hnone := h.get?_eq key
    rw [if_pos hkey, get?, ht] at hnone
    cases hnone
  have hmem : ∀ key, key ∈ m.entries.keys ↔ key ∈ keys ++ m₁.entries.keys := by
    intro key
    have hget := h.get?_eq key
    rw [List.mem_append, TextMap.mem_keys_iff_ne_none, TextMap.mem_keys_iff_ne_none]
    by_cases hkey : key ∈ keys
    · exact iff_of_true (hstored key hkey) (.inl hkey)
    · rw [if_neg hkey] at hget
      rw [or_iff_right hkey, ← get?, ← get?, hget]
  have hsize := h.size_eq
  rw [size, size, TextMap.size_eq_length hall hmem, List.length_append, TextMap.length_keys]
    at hsize
  omega

/-- A store without some keys has as many tickets less as it lost keys; what stands under the
others is left open. -/
theorem countP_add_size {m' : MemoryStore}
    (h : ∀ key, key ∈ m'.entries.keys ↔ key ∈ m.entries.keys ∧ key ∉ keys) :
    m.entries.keys.countP (· ∈ keys) + m'.size = m.size := by
  have hsize : m'.size = (m.entries.keys.filter (· ∉ keys)).length := by
    apply TextMap.size_eq_length (m.entries.nodup_keys.filter _)
    intro key
    rw [List.mem_filter, decide_eq_true_iff, h key]
  rw [hsize, size, ← TextMap.length_keys, ← List.countP_eq_length_filter,
    List.length_eq_countP_add_countP (· ∈ keys)]
  simp only [decide_eq_true_eq]

/-- A removal counts the stored keys that it removes. -/
theorem Removes.eq_countP (h : m.Removes keys n m₁) :
    n = m.entries.keys.countP (· ∈ keys) := by
  have hsize := h.size_eq
  have hcount : m.entries.keys.countP (· ∈ keys) + m₁.size = m.size := by
    apply countP_add_size
    intro key
    rw [TextMap.mem_keys_iff_ne_none, TextMap.mem_keys_iff_ne_none, ← get?, ← get?, h.get?_eq]
    by_cases hkey : key ∈ keys <;> simp [hkey]
  omega

/-- Putting a ticket in the place of another one leaves the keys. -/
theorem countP_keys_put {t old : Ticket} (hold : m.get? key = some old) (keys : List String) :
    (m.put key t).entries.keys.countP (· ∈ keys) = m.entries.keys.countP (· ∈ keys) := by
  apply List.Perm.countP_eq
  apply (List.perm_ext_iff_of_nodup (TextMap.nodup_keys _) (TextMap.nodup_keys _)).2
  intro other
  rw [entries_put, TextMap.mem_keys_insert, or_iff_right_of_imp]
  rintro rfl
  exact TextMap.mem_keys_iff.2 ⟨old, hold⟩

/-! ### Lost keys -/

/-- The keys that the first store has and the second one has not. -/
def lost (m m' : MemoryStore) : List String :=
  m.entries.keys.filter fun key => !m'.entries.contains key

/-- A store that has only keys of another one, and `n` tickets less. What stands under its keys is
left open. -/
structure Sheds (m : MemoryStore) (n : Nat) (m' : MemoryStore) : Prop where
  keys_subset : m'.entries.keys ⊆ m.entries.keys
  size_eq : n + m'.size = m.size

theorem Sheds.refl (m : MemoryStore) : m.Sheds 0 m := ⟨List.Subset.refl _, Nat.zero_add _⟩

theorem Sheds.delete (h : m.Sheds n m₁) (key : String) :
    m.Sheds (n + (m₁.entries.contains key).toNat) (m₁.delete key) := by
  refine ⟨fun other hother => ?_, ?_⟩
  · rw [entries_delete, TextMap.mem_keys_erase] at hother
    exact h.keys_subset hother.2
  · rw [Nat.add_assoc, size_delete, h.size_eq]

/-- Putting a ticket in the place of another one loses no key and gains none. -/
theorem Sheds.put (h : m.Sheds n m₁) {t old : Ticket} (hold : m₁.get? key = some old) :
    m.Sheds n (m₁.put key t) := by
  refine ⟨fun other hother => ?_, by rw [size_put hold, h.size_eq]⟩
  rw [entries_put, TextMap.mem_keys_insert] at hother
  rcases hother with rfl | hother
  · exact h.keys_subset (TextMap.mem_keys_iff.2 ⟨old, hold⟩)
  · exact h.keys_subset hother

/-- A store without a key of another one has lost it. -/
theorem mem_lost {t : Ticket} (hget : m.get? key = some t) (hnone : m₁.get? key = none) :
    key ∈ m.lost m₁ := by
  refine List.mem_filter.2 ⟨TextMap.mem_keys_iff.2 ⟨t, hget⟩, ?_⟩
  rw [TextMap.contains_eq_false_iff.2 hnone, Bool.not_false]

/-- The number of tickets that there are less is the number of lost keys. -/
theorem Sheds.eq_length (h : m.Sheds n m₁) : n = (m.lost m₁).length := by
  -- What is kept of the keys are the keys that the second store has.
  have hkept : m₁.size = (m.entries.keys.filter m₁.entries.contains).length := by
    refine TextMap.size_eq_length ((TextMap.nodup_keys _).filter _) fun key => ?_
    rw [List.mem_filter, ← TextMap.mem_keys_iff_contains]
    exact ⟨fun hkey => ⟨h.keys_subset hkey, hkey⟩, And.right⟩
  have hall := List.length_eq_length_filter_add (l := m.entries.keys) m₁.entries.contains
  rw [TextMap.length_keys, ← hkept] at hall
  have hsize := h.size_eq
  simp only [size, lost] at hsize hall ⊢
  omega

end MemoryStore

end SignOn
