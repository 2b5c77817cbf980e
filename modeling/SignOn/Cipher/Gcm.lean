import SignOn.Cipher.Aes

/-!
# Galois counter mode

Authenticated encryption without associated data: the plaintext is combined with a keystream of
encrypted counter blocks, and a tag of sixteen bytes is computed over the ciphertext in the field of
`2 ^ 128` elements. The nonce has twelve bytes.

## Main definitions

* `Gcm.encrypt` - the ciphertext of a plaintext, followed by its tag
* `Gcm.decrypt?` - the plaintext of a ciphertext whose tag is right
* `Gcm.maxLength` - how long a plaintext may be

## Main results

* `Gcm.combine_combine` - combining with the keystream twice gives the text back
* `Gcm.decrypt?_encrypt` - what was encrypted is decrypted
-/

namespace SignOn.Gcm

open Aes (Block)

/-! ### The field of authentication -/

/-- A field element; the most significant bit of `high` is the constant coefficient. -/
structure Element where
  high : UInt64
  low : UInt64
  deriving DecidableEq, Repr

/-- The sum of two elements. -/
def Element.add (x y : Element) : Element := ⟨x.high ^^^ y.high, x.low ^^^ y.low⟩

/-- An element times the indeterminate. -/
def Element.shift (x : Element) : Element :=
  let high := x.high >>> 1
  let low := x.low >>> 1 ||| x.high <<< 63
  -- The bit shifted out stands for `x ^ 128`, which is `1 + x + x ^ 2 + x ^ 7` in the field.
  if x.low &&& 1 = 1 then ⟨high ^^^ 0xE100000000000000, low⟩ else ⟨high, low⟩

/-- Adds to the first of a pair the products of the second with the leading `count` bits of a word,
and shifts the second along. -/
def Element.addBits : Nat → UInt64 → Element × Element → Element × Element
  | 0, _, zv => zv
  | count + 1, word, (z, v) =>
    addBits count (word <<< 1) (if word >>> 63 = 1 then z.add v else z, v.shift)

/-- The product of two elements. -/
def Element.mul (x y : Element) : Element :=
  (addBits 64 x.low (addBits 64 x.high (⟨0, 0⟩, y))).1

/-- The element of up to sixteen bytes, filled up with zeros. -/
def Element.ofBytes (bytes : List UInt8) : Element :=
  let padded := bytes ++ List.replicate (16 - bytes.length) 0
  ⟨Bytes.word64 (padded.take 8), Bytes.word64 (padded.drop 8)⟩

/-- The sixteen bytes of an element. -/
def Element.bytes (x : Element) : List UInt8 := Bytes.bigEndian64 x.high ++ Bytes.bigEndian64 x.low

@[simp] theorem Element.length_bytes (x : Element) : x.bytes.length = 16 := rfl

/-- The authentication sum of a ciphertext under the hash key `h`. -/
def ghash (h : Element) (text : List UInt8) : Element :=
  let sum : Element :=
    (Bytes.blocks 16 text).foldl (fun y block => Element.mul (y.add (.ofBytes block)) h) ⟨0, 0⟩
  (sum.add ⟨0, UInt64.ofNat (8 * text.length)⟩).mul h

/-! ### Counter mode -/

/-- The block with its last column, the counter, one higher. -/
def next (b : Block) : Block := { b with c₃ := b.c₃ + 1 }

/-- The encryptions of `count` blocks that follow a counter block. -/
def keystream (encryptBlock : Block → Block) : Nat → Block → List UInt8
  | 0, _ => []
  | count + 1, b => (encryptBlock (next b)).bytes ++ keystream encryptBlock count (next b)

/-- A text combined with the keystream after a counter block. -/
def combine (encryptBlock : Block → Block) (start : Block) (text : List UInt8) : List UInt8 :=
  Bytes.xor text (keystream encryptBlock ((text.length + 15) / 16) start)

theorem length_keystream (encryptBlock : Block → Block) (count : Nat) (b : Block) :
    (keystream encryptBlock count b).length = 16 * count := by
  induction count generalizing b with
  | zero => rfl
  | succ count ih => simp only [keystream, List.length_append, Block.length_bytes, ih]; omega

@[simp] theorem length_combine (encryptBlock : Block → Block) (start : Block) (text : List UInt8) :
    (combine encryptBlock start text).length = text.length := by
  simp only [combine, Bytes.length_xor, length_keystream]
  omega

/-- Combining with the keystream twice gives the text back. -/
@[simp] theorem combine_combine (encryptBlock : Block → Block) (start : Block) (text : List UInt8) :
    combine encryptBlock start (combine encryptBlock start text) = text := by
  have h : text.length ≤ (keystream encryptBlock ((text.length + 15) / 16) start).length := by
    rw [length_keystream]; omega
  rw [combine, length_combine]
  exact Bytes.xor_xor h

/-! ### Encryption and decryption -/

/-- The counter block of a nonce, before the first counter of the keystream. -/
def firstBlock (nonce : List UInt8) : Block := { Block.ofBytes nonce with c₃ := 1 }

/-- The tag of a ciphertext. -/
def tag (encryptBlock : Block → Block) (nonce text : List UInt8) : List UInt8 :=
  let hashKey := Element.ofBytes (encryptBlock ⟨0, 0, 0, 0⟩).bytes
  Bytes.xor (ghash hashKey text).bytes (encryptBlock (firstBlock nonce)).bytes

@[simp] theorem length_tag (encryptBlock : Block → Block) (nonce text : List UInt8) :
    (tag encryptBlock nonce text).length = 16 := by
  simp [tag]

/-- How many bytes a plaintext may have; the counter has 32 bits, two values of which are taken. -/
def maxLength : Nat := 16 * (UInt32.size - 2)

/-- The ciphertext of a plaintext, followed by its tag. -/
def encrypt (encryptBlock : Block → Block) (nonce plain : List UInt8) : List UInt8 :=
  let text := combine encryptBlock (firstBlock nonce) plain
  text ++ tag encryptBlock nonce text

/-- The plaintext of a ciphertext with its tag, if the tag is right. -/
def decrypt? (encryptBlock : Block → Block) (nonce sealed : List UInt8) : Option (List UInt8) :=
  let text := sealed.take (sealed.length - 16)
  if 16 ≤ sealed.length ∧ text.length ≤ maxLength ∧
      sealed.drop (sealed.length - 16) = tag encryptBlock nonce text then
    some (combine encryptBlock (firstBlock nonce) text)
  else none

/-- What was encrypted is decrypted. -/
theorem decrypt?_encrypt {encryptBlock : Block → Block} {nonce plain : List UInt8}
    (h : plain.length ≤ maxLength) :
    decrypt? encryptBlock nonce (encrypt encryptBlock nonce plain) = some plain := by
  simp [decrypt?, encrypt, h]

end SignOn.Gcm
