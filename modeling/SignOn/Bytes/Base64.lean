/-!
# Base64

Three bytes in four symbols of an alphabet of sixty-four. The standard alphabet is read strictly:
padding has to be present and canonical, and the unused bits of the last symbol have to be zero, so
a byte string has exactly one accepted text. The alphabet for addresses, without padding, is only
written.

## Main definitions

* `Base64.encodeStandard` - the standard alphabet, padded
* `Base64.encodeUrl` - the alphabet for addresses, without padding
* `Base64.Fault` - why a text is refused
* `Base64.decode` - the bytes of a text in the standard alphabet
-/

namespace SignOn.Base64

/-! ### Symbols -/

/-- The symbol of a number below sixty-four, given the last two symbols of the alphabet. -/
def symbolOf (last₂ last₁ : UInt8) (n : Nat) : UInt8 :=
  if n < 26 then UInt8.ofNat (65 + n)
  else if n < 52 then UInt8.ofNat (71 + n)
  else if n < 62 then UInt8.ofNat (n - 4)
  else if n = 62 then last₂
  else last₁

/-- The symbols of the standard alphabet, which ends in a plus sign and a slash. -/
def standardSymbol : Nat → UInt8 := symbolOf 43 47

/-- The symbols of the alphabet for addresses, which ends in a hyphen and a low line. -/
def urlSymbol : Nat → UInt8 := symbolOf 45 95

/-- The number of a symbol of the standard alphabet. -/
def value? (b : UInt8) : Option Nat :=
  if 65 ≤ b ∧ b ≤ 90 then some (b.toNat - 65)
  else if 97 ≤ b ∧ b ≤ 122 then some (b.toNat - 71)
  else if 48 ≤ b ∧ b ≤ 57 then some (b.toNat + 4)
  else if b = 43 then some 62
  else if b = 47 then some 63
  else none

/-- The padding character, an equals sign. -/
def pad : UInt8 := 61

/-! ### Writing -/

/-- Six-bit groups of bytes, from the front; the last group is filled up with zero bits. -/
def sextets : List UInt8 → List Nat
  | [] => []
  | [a] => [a.toNat / 4, a.toNat % 4 * 16]
  | [a, b] => [a.toNat / 4, a.toNat % 4 * 16 + b.toNat / 16, b.toNat % 16 * 4]
  | a :: b :: c :: rest =>
    a.toNat / 4 :: (a.toNat % 4 * 16 + b.toNat / 16) :: (b.toNat % 16 * 4 + c.toNat / 64) ::
      c.toNat % 64 :: sextets rest

/-- The number of padding characters after the symbols of this many bytes. -/
def padding (length : Nat) : Nat := (3 - length % 3) % 3

/-- The standard base64 form, padded to a multiple of four. -/
def encodeStandard (bytes : List UInt8) : List UInt8 :=
  (sextets bytes).map standardSymbol ++ List.replicate (padding bytes.length) pad

/-- The form for addresses, without padding. -/
def encodeUrl (bytes : List UInt8) : List UInt8 := (sextets bytes).map urlSymbol

/-- Text of ASCII bytes. -/
def ascii (bytes : List UInt8) : String := String.ofList (bytes.map fun b => Char.ofNat b.toNat)

/-! ### Reading -/

/-- Why a text is not the standard base64 form of any bytes. -/
inductive Fault where
  /-- This byte, at this offset, cannot stand there. -/
  | symbol (byte : UInt8) (offset : Nat)
  /-- The last group holds a single symbol; the total is the number of bytes up to its end. -/
  | length (total : Nat)
  /-- The unused bits of the last symbol, at this offset, are not zero. -/
  | lastSymbol (byte : UInt8) (offset : Nat)
  /-- The padding does not complete the last group. -/
  | padding
  deriving DecidableEq, Repr

/-- The wording of a fault. -/
def Fault.message : Fault → String
  | .symbol byte offset => s!"Invalid symbol {byte}, offset {offset}."
  | .length total => s!"Invalid input length: {total}"
  | .lastSymbol byte offset => s!"Invalid last symbol {byte}, offset {offset}."
  | .padding => "Invalid padding"

/-- The numbers of symbols, or the first byte that is none; `offset` is where the bytes start. -/
def symbols (offset : Nat) : List UInt8 → Except Fault (List Nat)
  | [] => .ok []
  | b :: rest =>
    match value? b with
    | none => .error (.symbol b offset)
    | some n =>
      match symbols (offset + 1) rest with
      | .ok ns => .ok (n :: ns)
      | .error fault => .error fault

/-- The symbols of the last group and the number of padding characters after them. Padding may
follow two symbols at the earliest, and nothing but padding may follow padding. -/
def lastGroup (offset position : Nat) (firstPad : Option Nat) :
    List UInt8 → Except Fault (List Nat × Nat)
  | [] => .ok ([], 0)
  | b :: rest =>
    if b = pad then
      if position < 2 then .error (.symbol pad (offset + position))
      else
        match lastGroup offset (position + 1) (some (firstPad.getD position)) rest with
        | .ok (ns, pads) => .ok (ns, pads + 1)
        | .error fault => .error fault
    else
      match firstPad, value? b with
      | some first, _ => .error (.symbol pad (offset + first))
      | none, none => .error (.symbol b (offset + position))
      | none, some n =>
        match lastGroup offset (position + 1) none rest with
        | .ok (ns, pads) => .ok (n :: ns, pads)
        | .error fault => .error fault

/-- The bytes of six-bit groups; bits that fill no byte are dropped. -/
def bytesOf : List Nat → List UInt8
  | a :: b :: c :: d :: rest =>
    UInt8.ofNat (a * 4 + b / 16) :: UInt8.ofNat (b % 16 * 16 + c / 4) ::
      UInt8.ofNat (c % 4 * 64 + d) :: bytesOf rest
  | [a, b, c] => [UInt8.ofNat (a * 4 + b / 16), UInt8.ofNat (b % 16 * 16 + c / 4)]
  | [a, b] => [UInt8.ofNat (a * 4 + b / 16)]
  | _ => []

/-- The bits of the last of these symbols that belong to no byte. -/
def unusedBits : List Nat → Nat
  | [_, b] => b % 16
  | [_, _, c] => c % 4
  | _ => 0

/-- How many bytes make up the last group: one to four, none of an empty text. -/
def lastGroupLength (length : Nat) : Nat :=
  if length = 0 then 0 else if length % 4 = 0 then 4 else length % 4

/-- The bytes of a text in the standard alphabet with canonical padding. Of several faults, a stray
byte after complete groups comes first, then what is wrong in the complete groups, then the last
group. -/
def decode (text : List UInt8) : Except Fault (List UInt8) :=
  let length := text.length
  let start := length - lastGroupLength length
  let front := text.take start
  let last := text.drop start
  match last with
  | [b] =>
    -- A single stray byte, such as a line feed, is named before anything else is looked at.
    if b ≠ pad ∧ (value? b).isNone then .error (.symbol b (length - 1)) else finish start front last
  | _ => finish start front last
where
  /-- Reads the complete groups and the last group, which starts at `start`. -/
  finish (start : Nat) (front last : List UInt8) : Except Fault (List UInt8) :=
    match symbols 0 front with
    | .error fault => .error fault
    | .ok complete =>
      match lastGroup start 0 none last with
      | .error fault => .error fault
      | .ok (ns, pads) =>
        if last ≠ [] ∧ ns.length < 2 then .error (.length (start + ns.length))
        else if (ns.length + pads) % 4 ≠ 0 then .error .padding
        else if unusedBits ns ≠ 0 then
          let offset := start + ns.length - 1
          .error (.lastSymbol (last.getD (ns.length - 1) 0) offset)
        else .ok (bytesOf (complete ++ ns))

end SignOn.Base64
