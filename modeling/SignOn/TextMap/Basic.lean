/-!
# Maps keyed by text

A finite map from texts to values that keeps its entries in the order of their keys. The order of
texts is that of their code points, which is also the order of their UTF-8 bytes. Because the order
is part of the type, two maps with the same look-ups are equal, and listing a map is deterministic.

## Main definitions

* `TextMap` - strictly sorted entries
* `TextMap.get?`, `TextMap.contains`, `TextMap.keys`, `TextMap.values` - reading
* `TextMap.insert`, `TextMap.erase` - changing one key
* `TextMap.insertMany`, `TextMap.ofList` - inserting from left to right, so that the last value of a
  key stays
* `TextMap.map` - changing every value
-/

namespace SignOn

universe u v

/-- Entries are in increasing order of their keys. -/
def TextMap.Sorted {α : Type u} (entries : List (String × α)) : Prop :=
  entries.Pairwise fun a b => a.1 < b.1

instance {α : Type u} (entries : List (String × α)) : Decidable (TextMap.Sorted entries) :=
  inferInstanceAs (Decidable (entries.Pairwise fun a b => a.1 < b.1))

/-- A finite map from texts to values, listed in the order of its keys. -/
structure TextMap (α : Type u) where
  entries : List (String × α)
  sorted : TextMap.Sorted entries

namespace TextMap

variable {α : Type u} {β : Type v}

theorem ext_entries {m n : TextMap α} (h : m.entries = n.entries) : m = n := by
  cases m; cases n; cases h; rfl

instance [DecidableEq α] : DecidableEq (TextMap α) := fun m n =>
  if h : m.entries = n.entries then isTrue (ext_entries h)
  else isFalse fun e => h (e ▸ rfl)

/-! ### Reading -/

/-- The first value listed under a key. -/
def lookup (key : String) : List (String × α) → Option α
  | [] => none
  | (k, a) :: rest => if key = k then some a else lookup key rest

/-- The value stored under a key. -/
def get? (m : TextMap α) (key : String) : Option α := lookup key m.entries

/-- Whether a key is present. -/
def contains (m : TextMap α) (key : String) : Bool := (m.get? key).isSome

/-- The keys in increasing order. -/
def keys (m : TextMap α) : List String := m.entries.map Prod.fst

/-- The values in the order of their keys. -/
def values (m : TextMap α) : List α := m.entries.map Prod.snd

/-- The number of keys. -/
def size (m : TextMap α) : Nat := m.entries.length

/-- Whether no key is present. -/
def isEmpty (m : TextMap α) : Bool := m.entries.isEmpty

/-! ### Changing -/

/-- The map without keys. -/
def empty : TextMap α := ⟨[], List.Pairwise.nil⟩

instance : EmptyCollection (TextMap α) := ⟨empty⟩

instance : Inhabited (TextMap α) := ⟨empty⟩

/-- Puts a value at the place of its key, replacing the value that is there. -/
def insertEntry (key : String) (a : α) : List (String × α) → List (String × α)
  | [] => [(key, a)]
  | (k, b) :: rest =>
    if key < k then (key, a) :: (k, b) :: rest
    else if key = k then (key, a) :: rest
    else (k, b) :: insertEntry key a rest

theorem mem_insertEntry {key : String} {a : α} {entries : List (String × α)} {e : String × α}
    (h : e ∈ insertEntry key a entries) : e = (key, a) ∨ e ∈ entries := by
  induction entries with
  | nil => simpa [insertEntry] using h
  | cons head rest ih =>
    simp only [insertEntry] at h
    split at h
    · simpa using h
    · split at h
      · rcases List.mem_cons.1 h with h | h
        · exact .inl h
        · exact .inr (List.mem_cons_of_mem _ h)
      · rcases List.mem_cons.1 h with h | h
        · exact .inr (h ▸ List.mem_cons_self)
        · exact (ih h).imp id (List.mem_cons_of_mem _)

theorem sorted_insertEntry {key : String} {a : α} {entries : List (String × α)}
    (h : Sorted entries) : Sorted (insertEntry key a entries) := by
  induction entries with
  | nil => simp [insertEntry, Sorted]
  | cons head rest ih =>
    obtain ⟨k, b⟩ := head
    obtain ⟨hk, hrest⟩ := List.pairwise_cons.1 h
    simp only [insertEntry]
    split
    next hlt =>
      refine List.pairwise_cons.2 ⟨fun e he => ?_, h⟩
      rcases List.mem_cons.1 he with rfl | he
      · exact hlt
      · exact String.lt_trans hlt (hk e he)
    next hnlt =>
      split
      next heq => exact List.pairwise_cons.2 ⟨fun e he => heq ▸ hk e he, hrest⟩
      next hne =>
        refine List.pairwise_cons.2 ⟨fun e he => ?_, ih hrest⟩
        rcases mem_insertEntry he with rfl | he
        · exact Decidable.byContradiction fun hge =>
            hne (String.le_antisymm (String.not_lt.1 hge) (String.not_lt.1 hnlt))
        · exact hk e he

/-- The map with a value stored under a key. -/
def insert (m : TextMap α) (key : String) (a : α) : TextMap α :=
  ⟨insertEntry key a m.entries, sorted_insertEntry m.sorted⟩

/-- The map without a key. -/
def erase (m : TextMap α) (key : String) : TextMap α :=
  ⟨m.entries.filter fun e => e.1 ≠ key, m.sorted.filter _⟩

/-- Inserts the listed entries from left to right. -/
def insertMany (m : TextMap α) (entries : List (String × α)) : TextMap α :=
  entries.foldl (fun m e => m.insert e.1 e.2) m

/-- The map of the listed entries; the last value of a repeated key stays. -/
def ofList (entries : List (String × α)) : TextMap α := empty.insertMany entries

/-- The map with every value replaced by its image. -/
def map (f : α → β) (m : TextMap α) : TextMap β :=
  ⟨m.entries.map fun e => (e.1, f e.2), by
    rw [Sorted, List.pairwise_map]
    exact m.sorted⟩

end TextMap

end SignOn
