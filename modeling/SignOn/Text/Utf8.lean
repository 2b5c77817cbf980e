/-!
# Texts as UTF-8 bytes

A text is stored as its UTF-8 bytes. Reading bytes back either gives the text or says where the
first fault lies: a sequence that no text has, or one that the end of the bytes cuts short.

## Main definitions

* `Utf8.encode` - the bytes of a text
* `Utf8.Fault` - why bytes are not a text, with the index of the first bad sequence
* `Utf8.decode` - the text of bytes

## Main results

* `Utf8.decode_encode` - reading undoes writing
* `Utf8.encode_of_decode` - what is read is written with the same bytes
-/

namespace SignOn.Utf8

/-- The UTF-8 bytes of a text. -/
def encode (s : String) : List UInt8 := s.toByteArray.data.toList

/-! ### Faults -/

/-- Why bytes are not the UTF-8 form of a text. -/
inductive Fault where
  /-- A sequence of this many bytes, from this index on, starts no character. -/
  | invalid (length index : Nat)
  /-- The bytes end inside the character that starts at this index. -/
  | incomplete (index : Nat)
  deriving DecidableEq, Repr

/-- The wording of a fault. -/
def Fault.message : Fault → String
  | .invalid length index => s!"invalid utf-8 sequence of {length} bytes from index {index}"
  | .incomplete index => s!"incomplete utf-8 byte sequence from index {index}"

/-- What a first byte announces: how many bytes follow, and the range of the next one. -/
structure Lead where
  following : Nat
  low : UInt8
  high : UInt8

/-- The announcement of a first byte; the narrowed ranges exclude overlong forms, surrogates and
code points beyond the last one. -/
def lead? (b : UInt8) : Option Lead :=
  if b < 0x80 then some ⟨0, 0x80, 0xBF⟩
  else if b < 0xC2 then none
  else if b < 0xE0 then some ⟨1, 0x80, 0xBF⟩
  else if b = 0xE0 then some ⟨2, 0xA0, 0xBF⟩
  else if b = 0xED then some ⟨2, 0x80, 0x9F⟩
  else if b < 0xF0 then some ⟨2, 0x80, 0xBF⟩
  else if b = 0xF0 then some ⟨3, 0x90, 0xBF⟩
  else if b < 0xF4 then some ⟨3, 0x80, 0xBF⟩
  else if b = 0xF4 then some ⟨3, 0x80, 0x8F⟩
  else none

/-- The first fault of the bytes, for a character that started at `start`, of which `seen` bytes
were read and which still awaits what `due` says. -/
def firstFault (start seen : Nat) (due : Lead) : List UInt8 → Option Fault
  | [] => if due.following = 0 then none else some (.incomplete start)
  | b :: rest =>
    if due.following = 0 then
      match lead? b with
      | none => some (.invalid 1 (start + seen))
      | some next => firstFault (start + seen) 1 next rest
    else if due.low ≤ b ∧ b ≤ due.high then
      -- Only the first of the following bytes has a range of its own.
      firstFault start (seen + 1) ⟨due.following - 1, 0x80, 0xBF⟩ rest
    else some (.invalid seen start)

/-- The fault that bytes are reported with when they are not the UTF-8 form of a text. -/
def fault (bytes : List UInt8) : Fault :=
  (firstFault 0 0 ⟨0, 0x80, 0xBF⟩ bytes).getD (.incomplete bytes.length)

/-! ### Reading -/

/-- The text of bytes in UTF-8. -/
def decode (bytes : List UInt8) : Except Fault String :=
  match String.fromUTF8? ⟨bytes.toArray⟩ with
  | some s => .ok s
  | none => .error (fault bytes)

/-- Reading undoes writing. -/
@[simp] theorem decode_encode (s : String) : decode (encode s) = .ok s := by
  have h : String.fromUTF8? ⟨(encode s).toArray⟩ = some s := by
    have hb : (⟨(encode s).toArray⟩ : ByteArray) = s.toByteArray := by simp [encode]
    rw [hb, String.fromUTF8?, dif_pos s.isValidUTF8]
    rfl
  rw [decode, h]

/-- What is read is written with the same bytes. -/
theorem encode_of_decode {bytes : List UInt8} {s : String} (h : decode bytes = .ok s) :
    encode s = bytes := by
  unfold decode at h
  split at h
  next t ht =>
    obtain rfl := Except.ok.inj h
    unfold String.fromUTF8? at ht
    split at ht
    · obtain rfl := Option.some.inj ht
      simp [encode, String.fromUTF8]
    · exact absurd ht (by simp)
  next => exact absurd h (by simp)

theorem encode_injective {s t : String} (h : encode s = encode t) : s = t :=
  Except.ok.inj ((decode_encode s).symm.trans ((congrArg decode h).trans (decode_encode t)))

end SignOn.Utf8
