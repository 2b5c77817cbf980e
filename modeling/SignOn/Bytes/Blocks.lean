/-!
# Blocks of bytes

Digests and block ciphers work on groups of a fixed number of bytes, and on words written with the
most significant byte first.

## Main definitions

* `Bytes.blocks` - bytes in groups of a given size; the last one may be shorter
* `Bytes.bigEndian32`, `Bytes.bigEndian64` - the bytes of a word
* `Bytes.word32`, `Bytes.word64` - the word of bytes
* `Bytes.xor` - two byte strings combined bit by bit
-/

namespace SignOn.Bytes

/-- Groups of `size` bytes, of which `room` more fit into the group read so far. -/
def blocksFrom (size room : Nat) (group : List UInt8) : List UInt8 → List (List UInt8)
  | [] => if group.isEmpty then [] else [group.reverse]
  | b :: rest =>
    if room ≤ 1 then (b :: group).reverse :: blocksFrom size size [] rest
    else blocksFrom size (room - 1) (b :: group) rest

/-- The bytes in groups of `size`; the last group may be shorter. -/
def blocks (size : Nat) (bytes : List UInt8) : List (List UInt8) := blocksFrom size size [] bytes

/-- The four bytes of a word, most significant first. -/
def bigEndian32 (w : UInt32) : List UInt8 :=
  [(w >>> 24).toUInt8, (w >>> 16).toUInt8, (w >>> 8).toUInt8, w.toUInt8]

/-- The eight bytes of a word, most significant first. -/
def bigEndian64 (w : UInt64) : List UInt8 :=
  [(w >>> 56).toUInt8, (w >>> 48).toUInt8, (w >>> 40).toUInt8, (w >>> 32).toUInt8,
    (w >>> 24).toUInt8, (w >>> 16).toUInt8, (w >>> 8).toUInt8, w.toUInt8]

/-- The word of four bytes, most significant first. -/
def word32 (bytes : List UInt8) : UInt32 := bytes.foldl (fun w b => w <<< 8 ||| b.toUInt32) 0

/-- The word of eight bytes, most significant first. -/
def word64 (bytes : List UInt8) : UInt64 := bytes.foldl (fun w b => w <<< 8 ||| b.toUInt64) 0

/-- Two byte strings combined bit by bit, as far as the shorter one goes. -/
def xor (a b : List UInt8) : List UInt8 := List.zipWith (· ^^^ ·) a b

@[simp] theorem length_xor (a b : List UInt8) : (xor a b).length = min a.length b.length := by
  simp [xor]

/-- Combining twice with the same bytes gives the bytes back. -/
theorem xor_xor {a k : List UInt8} (h : a.length ≤ k.length) : xor (xor a k) k = a := by
  induction a generalizing k with
  | nil => simp [xor]
  | cons b rest ih =>
    cases k with
    | nil => simp at h
    | cons c k =>
      have hrest : xor (xor rest k) k = rest := ih (Nat.le_of_succ_le_succ h)
      have hfirst : b ^^^ c ^^^ c = b := by rw [UInt8.xor_assoc, UInt8.xor_self, UInt8.xor_zero]
      exact List.cons_eq_cons.2 ⟨hfirst, hrest⟩

end SignOn.Bytes
