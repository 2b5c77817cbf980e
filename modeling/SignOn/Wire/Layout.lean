import SignOn.Calendar.Printer
import SignOn.TextMap.Basic
import SignOn.Wire.Fault

/-!
# Layouts of stored values

A layout writes a value as bytes and reads a value from the front of bytes, returning the bytes
after it. Numbers have a fixed width and are written with the least significant byte first; texts,
lists and maps start with their length in sixty-four bits; alternatives start with their number in
thirty-two bits.

## Main definitions

* `Layout` - a writer, a reader, and the values whose lengths can be written
* `Layout.serialize`, `Layout.deserialize` - from a value to bytes and back
* `Layout.word`, `Layout.byte`, `Layout.flag`, `Layout.text`, `Layout.instant` - single values
* `Layout.pair`, `Layout.option`, `Layout.list`, `Layout.textMap` - compound values
* `Layout.iso` - the layout of a type in terms of another one
* `Layout.readVariant` - the number of an alternative
-/

namespace SignOn

open Wire (Fault)

/-- How values of a type are stored. -/
structure Layout (α : Type) where
  /-- The bytes of a value. -/
  write : α → List UInt8
  /-- The value at the front of bytes, and the bytes after it. -/
  read : List UInt8 → Except Fault (α × List UInt8)
  /-- Whether every length in a value fits into sixty-four bits. -/
  fits : α → Bool

namespace Layout

variable {α β : Type}

/-- The bytes of a value, if its lengths can be written. -/
def serialize (layout : Layout α) (a : α) : Except Fault (List UInt8) :=
  if layout.fits a then .ok (layout.write a) else .error .tooLong

/-- The value at the front of bytes; bytes after it are ignored. -/
def deserialize (layout : Layout α) (bytes : List UInt8) : Except Fault α :=
  (layout.read bytes).map Prod.fst

/-! ### Numbers -/

/-- The lowest `width` bytes of a number, least significant first. -/
def littleEndian : Nat → Nat → List UInt8
  | 0, _ => []
  | width + 1, n => UInt8.ofNat n :: littleEndian width (n / 256)

/-- The number of bytes, least significant first. -/
def number : List UInt8 → Nat
  | [] => 0
  | b :: rest => b.toNat + 256 * number rest

/-- The number in the first `width` bytes. -/
def readNumber (width : Nat) (bytes : List UInt8) : Except Fault (Nat × List UInt8) :=
  let front := bytes.take width
  if front.length = width then .ok (number front, bytes.drop width) else .error .cut

@[simp] theorem length_littleEndian (width n : Nat) : (littleEndian width n).length = width := by
  induction width generalizing n with
  | zero => rfl
  | succ width ih => simp [littleEndian, ih]

/-- An unsigned number of sixty-four bits. -/
def word : Layout UInt64 where
  write w := littleEndian 8 w.toNat
  read bytes := (readNumber 8 bytes).map fun (n, rest) => (UInt64.ofNat n, rest)
  fits _ := true

/-- A single byte. -/
def byte : Layout UInt8 where
  write b := [b]
  read
    | [] => .error .cut
    | b :: rest => .ok (b, rest)
  fits _ := true

/-- A truth value, as a byte that is zero or one. -/
def flag : Layout Bool where
  write b := [if b then 1 else 0]
  read
    | [] => .error .cut
    | b :: rest =>
      if b = 0 then .ok (false, rest) else if b = 1 then .ok (true, rest) else .error (.flag b)
  fits _ := true

/-- The number of an alternative, which has to be below the number of alternatives. -/
def readVariant (count : Nat) (bytes : List UInt8) : Except Fault (Nat × List UInt8) :=
  match readNumber 4 bytes with
  | .error fault => .error fault
  | .ok (index, rest) => if index < count then .ok (index, rest) else .error (.variant index count)

/-! ### Texts -/

/-- A length in sixty-four bits. -/
def writeLength (n : Nat) : List UInt8 := littleEndian 8 n

/-- A text: its length in bytes, and its UTF-8 bytes. -/
def text : Layout String where
  write s := writeLength (Utf8.encode s).length ++ Utf8.encode s
  read bytes :=
    match readNumber 8 bytes with
    | .error fault => .error fault
    | .ok (n, rest) =>
      -- The length may be any number of sixty-four bits; only bytes that are there are taken.
      let body := rest.take n
      if body.length = n then
        match Utf8.decode body with
        | .ok s => .ok (s, rest.drop n)
        | .error fault => .error (.text fault)
      else .error .cutText
  fits s := (Utf8.encode s).length < UInt64.size

/-- An instant, as the text it is written as; other spellings of an instant are read too. -/
def instant : Layout Instant where
  write i := text.write i.toText
  read bytes :=
    match text.read bytes with
    | .error fault => .error fault
    | .ok (s, rest) =>
      match Instant.parse s with
      | .ok i => .ok (i, rest)
      | .error fault => .error (.instant fault)
  fits i := text.fits i.toText

/-! ### Compound values -/

/-- The layout of a type whose values correspond to those of another one. -/
def iso (layout : Layout α) (wrap : α → β) (unwrap : β → α) : Layout β where
  write b := layout.write (unwrap b)
  read bytes := (layout.read bytes).map fun (a, rest) => (wrap a, rest)
  fits b := layout.fits (unwrap b)

/-- One value after the other. -/
def pair (first : Layout α) (second : Layout β) : Layout (α × β) where
  write ab := first.write ab.1 ++ second.write ab.2
  read bytes :=
    match first.read bytes with
    | .error fault => .error fault
    | .ok (a, rest) => (second.read rest).map fun (b, rest) => ((a, b), rest)
  fits ab := first.fits ab.1 && second.fits ab.2

/-- An optional value: a zero byte, or a one byte and the value. -/
def option (layout : Layout α) : Layout (Option α) where
  write
    | none => [0]
    | some a => 1 :: layout.write a
  read
    | [] => .error .cut
    | b :: rest =>
      if b = 0 then .ok (none, rest)
      else if b = 1 then (layout.read rest).map fun (a, rest) => (some a, rest)
      else .error (.optional b)
  fits a := a.all layout.fits

/-- So many values, one after the other. -/
def readMany (layout : Layout α) : Nat → List UInt8 → Except Fault (List α × List UInt8)
  | 0, bytes => .ok ([], bytes)
  | count + 1, bytes =>
    match layout.read bytes with
    | .error fault => .error fault
    | .ok (a, rest) => (readMany layout count rest).map fun (as, rest) => (a :: as, rest)

/-- A list: its length, and its values. -/
def list (layout : Layout α) : Layout (List α) where
  write as := writeLength as.length ++ as.flatMap layout.write
  read bytes :=
    match readNumber 8 bytes with
    | .error fault => .error fault
    | .ok (count, rest) => readMany layout count rest
  fits as := as.length < UInt64.size && as.all layout.fits

/-- A map: the list of its entries in the order of their keys. Entries are read in any order, and
the last value of a repeated key stays. -/
def textMap (layout : Layout α) : Layout (TextMap α) :=
  (list (pair text layout)).iso TextMap.ofList TextMap.entries

end Layout

end SignOn
