/-!
# Bytes in hexadecimal

Two lowercase digits a byte. Reading accepts digits of either case.

## Main definitions

* `Hex.encode` - the digits of bytes
* `Hex.decode?` - the bytes of digits, if they come in pairs

## Main results

* `Hex.decode?_encode` - reading undoes writing
* `Hex.length_encode` - two digits a byte
-/

namespace SignOn.Hex

/-- The lowercase digit of a number below sixteen. -/
def digit (n : Nat) : Char := if n < 10 then Char.ofNat (48 + n) else Char.ofNat (87 + n)

/-- The value of a digit of either case. -/
def digitValue? (c : Char) : Option Nat :=
  if '0' ≤ c ∧ c ≤ '9' then some (c.toNat - 48)
  else if 'a' ≤ c ∧ c ≤ 'f' then some (c.toNat - 87)
  else if 'A' ≤ c ∧ c ≤ 'F' then some (c.toNat - 55)
  else none

/-- The two digits of each byte. -/
def encodeChars : List UInt8 → List Char
  | [] => []
  | b :: rest => digit (b.toNat / 16) :: digit (b.toNat % 16) :: encodeChars rest

/-- Bytes as text of two lowercase digits each. -/
def encode (bytes : List UInt8) : String := String.ofList (encodeChars bytes)

/-- The bytes of paired digits. -/
def decodeChars? : List Char → Option (List UInt8)
  | [] => some []
  | [_] => none
  | h :: l :: rest =>
    match digitValue? h, digitValue? l, decodeChars? rest with
    | some high, some low, some bytes => some (UInt8.ofNat (16 * high + low) :: bytes)
    | _, _, _ => none

/-- The bytes that a text of paired digits stands for. -/
def decode? (s : String) : Option (List UInt8) := decodeChars? s.toList

theorem digitValue?_digit {n : Nat} (h : n < 16) : digitValue? (digit n) = some n := by
  have all : ∀ k, k < 16 → digitValue? (digit k) = some k := by decide
  exact all n h

theorem decodeChars?_encodeChars (bytes : List UInt8) :
    decodeChars? (encodeChars bytes) = some bytes := by
  induction bytes with
  | nil => rfl
  | cons b rest ih =>
    have hb := b.toNat_lt
    rw [encodeChars, decodeChars?, digitValue?_digit (by omega), digitValue?_digit (by omega), ih]
    have : 16 * (b.toNat / 16) + b.toNat % 16 = b.toNat := by omega
    simp [this]

/-- Reading undoes writing. -/
@[simp] theorem decode?_encode (bytes : List UInt8) : decode? (encode bytes) = some bytes := by
  simp [decode?, encode, decodeChars?_encodeChars]

theorem encode_injective {a b : List UInt8} (h : encode a = encode b) : a = b :=
  Option.some.inj ((decode?_encode a).symm.trans ((congrArg decode? h).trans (decode?_encode b)))

/-- Every byte takes two digits. -/
theorem length_encodeChars (bytes : List UInt8) :
    (encodeChars bytes).length = 2 * bytes.length := by
  induction bytes with
  | nil => rfl
  | cons b rest ih => simp only [encodeChars, List.length_cons, ih]; omega

theorem length_encode (bytes : List UInt8) : (encode bytes).length = 2 * bytes.length := by
  simp [encode, String.length_ofList, length_encodeChars]

end SignOn.Hex
