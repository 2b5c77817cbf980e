import SignOn.Bytes.Blocks

/-!
# The block cipher AES with a 256-bit key

Encryption of one block of sixteen bytes, as four columns of four bytes. Counter mode needs no
decryption of blocks.

## Main definitions

* `Aes.Block` - four columns, the first byte of a column being its most significant one
* `Aes.expandKey` - the sixty words of the key schedule
* `Aes.encryptBlock` - fourteen rounds over a block
-/

namespace SignOn.Aes

/-- The substitution of bytes. -/
def substitution : Array UInt8 :=
  #[ 0x63, 0x7c, 0x77, 0x7b, 0xf2, 0x6b, 0x6f, 0xc5, 0x30, 0x01, 0x67, 0x2b, 0xfe, 0xd7, 0xab, 0x76,
    0xca, 0x82, 0xc9, 0x7d, 0xfa, 0x59, 0x47, 0xf0, 0xad, 0xd4, 0xa2, 0xaf, 0x9c, 0xa4, 0x72, 0xc0,
    0xb7, 0xfd, 0x93, 0x26, 0x36, 0x3f, 0xf7, 0xcc, 0x34, 0xa5, 0xe5, 0xf1, 0x71, 0xd8, 0x31, 0x15,
    0x04, 0xc7, 0x23, 0xc3, 0x18, 0x96, 0x05, 0x9a, 0x07, 0x12, 0x80, 0xe2, 0xeb, 0x27, 0xb2, 0x75,
    0x09, 0x83, 0x2c, 0x1a, 0x1b, 0x6e, 0x5a, 0xa0, 0x52, 0x3b, 0xd6, 0xb3, 0x29, 0xe3, 0x2f, 0x84,
    0x53, 0xd1, 0x00, 0xed, 0x20, 0xfc, 0xb1, 0x5b, 0x6a, 0xcb, 0xbe, 0x39, 0x4a, 0x4c, 0x58, 0xcf,
    0xd0, 0xef, 0xaa, 0xfb, 0x43, 0x4d, 0x33, 0x85, 0x45, 0xf9, 0x02, 0x7f, 0x50, 0x3c, 0x9f, 0xa8,
    0x51, 0xa3, 0x40, 0x8f, 0x92, 0x9d, 0x38, 0xf5, 0xbc, 0xb6, 0xda, 0x21, 0x10, 0xff, 0xf3, 0xd2,
    0xcd, 0x0c, 0x13, 0xec, 0x5f, 0x97, 0x44, 0x17, 0xc4, 0xa7, 0x7e, 0x3d, 0x64, 0x5d, 0x19, 0x73,
    0x60, 0x81, 0x4f, 0xdc, 0x22, 0x2a, 0x90, 0x88, 0x46, 0xee, 0xb8, 0x14, 0xde, 0x5e, 0x0b, 0xdb,
    0xe0, 0x32, 0x3a, 0x0a, 0x49, 0x06, 0x24, 0x5c, 0xc2, 0xd3, 0xac, 0x62, 0x91, 0x95, 0xe4, 0x79,
    0xe7, 0xc8, 0x37, 0x6d, 0x8d, 0xd5, 0x4e, 0xa9, 0x6c, 0x56, 0xf4, 0xea, 0x65, 0x7a, 0xae, 0x08,
    0xba, 0x78, 0x25, 0x2e, 0x1c, 0xa6, 0xb4, 0xc6, 0xe8, 0xdd, 0x74, 0x1f, 0x4b, 0xbd, 0x8b, 0x8a,
    0x70, 0x3e, 0xb5, 0x66, 0x48, 0x03, 0xf6, 0x0e, 0x61, 0x35, 0x57, 0xb9, 0x86, 0xc1, 0x1d, 0x9e,
    0xe1, 0xf8, 0x98, 0x11, 0x69, 0xd9, 0x8e, 0x94, 0x9b, 0x1e, 0x87, 0xe9, 0xce, 0x55, 0x28, 0xdf,
    0x8c, 0xa1, 0x89, 0x0d, 0xbf, 0xe6, 0x42, 0x68, 0x41, 0x99, 0x2d, 0x0f, 0xb0, 0x54, 0xbb, 0x16]

/-- The substitute of a byte. -/
def substitute (b : UInt8) : UInt8 := substitution.getD b.toNat 0

/-- The word with every byte replaced by its substitute. -/
def substituteWord (w : UInt32) : UInt32 :=
  Bytes.word32 ((Bytes.bigEndian32 w).map substitute)

/-- Rotation of a word to the left. -/
def rotateLeft (w n : UInt32) : UInt32 := w <<< n ||| w >>> (32 - n)

/-- Four columns of four bytes. -/
structure Block where
  c₀ : UInt32
  c₁ : UInt32
  c₂ : UInt32
  c₃ : UInt32
  deriving DecidableEq, Repr

/-- The block of up to sixteen bytes, filled up with zeros. -/
def Block.ofBytes (bytes : List UInt8) : Block :=
  let word (i : Nat) : UInt32 :=
    Bytes.word32 [bytes.getD i 0, bytes.getD (i + 1) 0, bytes.getD (i + 2) 0, bytes.getD (i + 3) 0]
  ⟨word 0, word 4, word 8, word 12⟩

/-- The sixteen bytes of a block. -/
def Block.bytes (b : Block) : List UInt8 :=
  Bytes.bigEndian32 b.c₀ ++ Bytes.bigEndian32 b.c₁ ++ Bytes.bigEndian32 b.c₂ ++
    Bytes.bigEndian32 b.c₃

@[simp] theorem Block.length_bytes (b : Block) : b.bytes.length = 16 := rfl

/-- Two blocks combined bit by bit. -/
def Block.xor (a b : Block) : Block :=
  ⟨a.c₀ ^^^ b.c₀, a.c₁ ^^^ b.c₁, a.c₂ ^^^ b.c₂, a.c₃ ^^^ b.c₃⟩

/-- Substitutes every byte. -/
def Block.substitute (b : Block) : Block :=
  ⟨substituteWord b.c₀, substituteWord b.c₁, substituteWord b.c₂, substituteWord b.c₃⟩

/-- Row `i` moves `i` columns to the left. -/
def Block.shiftRows (b : Block) : Block :=
  let column (w₀ w₁ w₂ w₃ : UInt32) : UInt32 :=
    (w₀ &&& 0xFF000000) ||| (w₁ &&& 0x00FF0000) ||| (w₂ &&& 0x0000FF00) ||| (w₃ &&& 0x000000FF)
  -- The row of each column comes from the column as many places to the right as the row has.
  ⟨column b.c₀ b.c₁ b.c₂ b.c₃, column b.c₁ b.c₂ b.c₃ b.c₀, column b.c₂ b.c₃ b.c₀ b.c₁,
    column b.c₃ b.c₀ b.c₁ b.c₂⟩

/-- Every byte of a word times `x` in the field of 256 elements. -/
def double (w : UInt32) : UInt32 :=
  ((w &&& 0x7F7F7F7F) <<< 1) ^^^ (((w >>> 7) &&& 0x01010101) * 0x1B)

/-- A column times the matrix whose rows are the rotations of `2 3 1 1`. -/
def mixColumn (w : UInt32) : UInt32 :=
  double w ^^^ rotateLeft (double w ^^^ w) 8 ^^^ rotateLeft w 16 ^^^ rotateLeft w 24

/-- Mixes every column. -/
def Block.mixColumns (b : Block) : Block :=
  ⟨mixColumn b.c₀, mixColumn b.c₁, mixColumn b.c₂, mixColumn b.c₃⟩

/-! ### The key schedule -/

/-- The round constants, powers of `x` in the field of 256 elements. -/
def roundConstants : Array UInt32 :=
  #[0x01000000, 0x02000000, 0x04000000, 0x08000000, 0x10000000, 0x20000000, 0x40000000]

/-- The change of the word before, when word number `i` of the schedule is formed. -/
def scheduleStep (i : Nat) (w : UInt32) : UInt32 :=
  if i % 8 = 0 then substituteWord (rotateLeft w 8) ^^^ roundConstants.getD (i / 8 - 1) 0
  else if i % 8 = 4 then substituteWord w
  else w

/-- The sixty words of the key schedule of thirty-two bytes. -/
def expandKey (key : List UInt8) : Array UInt32 :=
  (List.range 52).foldl
    (fun words i => words.push (words.getD i 0 ^^^ scheduleStep (i + 8) (words.getD (i + 7) 0)))
    ((Bytes.blocks 4 key).map Bytes.word32).toArray

/-- The key of a round: four consecutive words of the schedule. -/
def roundKey (words : Array UInt32) (round : Nat) : Block :=
  ⟨words.getD (4 * round) 0, words.getD (4 * round + 1) 0, words.getD (4 * round + 2) 0,
    words.getD (4 * round + 3) 0⟩

/-! ### Encryption -/

/-- Encrypts a block with an expanded key; the last of the fourteen rounds does not mix columns. -/
def encryptBlock (words : Array UInt32) (block : Block) : Block :=
  let mixed := (List.range 13).foldl
    (fun b round => b.substitute.shiftRows.mixColumns.xor (roundKey words (round + 1)))
    (block.xor (roundKey words 0))
  mixed.substitute.shiftRows.xor (roundKey words 14)

end SignOn.Aes
