import SignOn.Store.Backend
import SignOn.TextMap.Lemmas

/-!
# Tickets in memory

A backend that keeps tickets in a map and counts its writes: every ticket that is put, and every
deletion that finds a ticket.

## Main definitions

* `MemoryStore` - the tickets, and the number of writes
* `MemoryStore.put`, `MemoryStore.delete` - the two ways to change it
* `Backend.memory` - the backend over it; a scan lists the tickets in the order of their keys
-/

namespace SignOn

/-- Tickets under keys, and how often they were changed. -/
structure MemoryStore where
  entries : TextMap Ticket
  writes : Nat
  deriving DecidableEq

namespace MemoryStore

/-- The store in which nothing was put yet. -/
def empty : MemoryStore := ⟨.empty, 0⟩

/-- The ticket under a key. -/
def get? (s : MemoryStore) (key : String) : Option Ticket := s.entries.get? key

/-- The store with a ticket under a key. -/
def put (s : MemoryStore) (key : String) (ticket : Ticket) : MemoryStore :=
  ⟨s.entries.insert key ticket, s.writes + 1⟩

/-- The store without a ticket under a key. Where there is none, nothing is written. -/
def delete (s : MemoryStore) (key : String) : MemoryStore :=
  if s.entries.contains key then ⟨s.entries.erase key, s.writes + 1⟩ else s

@[simp] theorem entries_put (s : MemoryStore) (key : String) (ticket : Ticket) :
    (s.put key ticket).entries = s.entries.insert key ticket := rfl

@[simp] theorem entries_delete (s : MemoryStore) (key : String) :
    (s.delete key).entries = s.entries.erase key := by
  unfold delete
  split
  · rfl
  · rename_i h
    refine (TextMap.erase_of_get?_eq_none ?_).symm
    simpa [TextMap.contains] using h

end MemoryStore

/-- The backend in memory. -/
def Backend.memory : Backend MemoryStore where
  get key s := .ok (s.get? key) s
  put key ticket s := .ok () (s.put key ticket)
  delete key s := .ok (s.entries.contains key) (s.delete key)
  scan s := .ok s.entries.values s

end SignOn
