import PathSeal.Cipher.Block
import PathSeal.Word

/-!
# PathSeal.Cipher.Aes

The AES block cipher with 256-bit keys (FIPS 197), in the encrypting direction:
both authenticated modes run it forwards only.

A block is worked on as four columns of one 32-bit word each. Substitution and
column mixing are one look-up per byte in a table derived from the S-box.
-/

namespace PathSeal.Cipher.Aes

open Word (rotateRight)

/-- The S-box: inversion in the field of 256 elements, then an affine map. -/
def sbox : Array UInt32 :=
  #[
    0x63, 0x7c, 0x77, 0x7b, 0xf2, 0x6b, 0x6f, 0xc5, 0x30, 0x01, 0x67, 0x2b,
    0xfe, 0xd7, 0xab, 0x76, 0xca, 0x82, 0xc9, 0x7d, 0xfa, 0x59, 0x47, 0xf0,
    0xad, 0xd4, 0xa2, 0xaf, 0x9c, 0xa4, 0x72, 0xc0, 0xb7, 0xfd, 0x93, 0x26,
    0x36, 0x3f, 0xf7, 0xcc, 0x34, 0xa5, 0xe5, 0xf1, 0x71, 0xd8, 0x31, 0x15,
    0x04, 0xc7, 0x23, 0xc3, 0x18, 0x96, 0x05, 0x9a, 0x07, 0x12, 0x80, 0xe2,
    0xeb, 0x27, 0xb2, 0x75, 0x09, 0x83, 0x2c, 0x1a, 0x1b, 0x6e, 0x5a, 0xa0,
    0x52, 0x3b, 0xd6, 0xb3, 0x29, 0xe3, 0x2f, 0x84, 0x53, 0xd1, 0x00, 0xed,
    0x20, 0xfc, 0xb1, 0x5b, 0x6a, 0xcb, 0xbe, 0x39, 0x4a, 0x4c, 0x58, 0xcf,
    0xd0, 0xef, 0xaa, 0xfb, 0x43, 0x4d, 0x33, 0x85, 0x45, 0xf9, 0x02, 0x7f,
    0x50, 0x3c, 0x9f, 0xa8, 0x51, 0xa3, 0x40, 0x8f, 0x92, 0x9d, 0x38, 0xf5,
    0xbc, 0xb6, 0xda, 0x21, 0x10, 0xff, 0xf3, 0xd2, 0xcd, 0x0c, 0x13, 0xec,
    0x5f, 0x97, 0x44, 0x17, 0xc4, 0xa7, 0x7e, 0x3d, 0x64, 0x5d, 0x19, 0x73,
    0x60, 0x81, 0x4f, 0xdc, 0x22, 0x2a, 0x90, 0x88, 0x46, 0xee, 0xb8, 0x14,
    0xde, 0x5e, 0x0b, 0xdb, 0xe0, 0x32, 0x3a, 0x0a, 0x49, 0x06, 0x24, 0x5c,
    0xc2, 0xd3, 0xac, 0x62, 0x91, 0x95, 0xe4, 0x79, 0xe7, 0xc8, 0x37, 0x6d,
    0x8d, 0xd5, 0x4e, 0xa9, 0x6c, 0x56, 0xf4, 0xea, 0x65, 0x7a, 0xae, 0x08,
    0xba, 0x78, 0x25, 0x2e, 0x1c, 0xa6, 0xb4, 0xc6, 0xe8, 0xdd, 0x74, 0x1f,
    0x4b, 0xbd, 0x8b, 0x8a, 0x70, 0x3e, 0xb5, 0x66, 0x48, 0x03, 0xf6, 0x0e,
    0x61, 0x35, 0x57, 0xb9, 0x86, 0xc1, 0x1d, 0x9e, 0xe1, 0xf8, 0x98, 0x11,
    0x69, 0xd9, 0x8e, 0x94, 0x9b, 0x1e, 0x87, 0xe9, 0xce, 0x55, 0x28, 0xdf,
    0x8c, 0xa1, 0x89, 0x0d, 0xbf, 0xe6, 0x42, 0x68, 0x41, 0x99, 0x2d, 0x0f,
    0xb0, 0x54, 0xbb, 0x16
  ]

/-- The product with `x` in the field of 256 elements. -/
def double (b : UInt32) : UInt32 :=
  if b &&& 0x80 = 0 then b <<< 1 else (b <<< 1) ^^^ 0x11b

/-- For each byte, its contribution to a mixed column when it stands in the top row. -/
def mixTable : Array UInt32 :=
  sbox.map fun s => double s <<< 24 ||| s <<< 16 ||| s <<< 8 ||| (double s ^^^ s)

/-- The S-box at the low byte of a word. -/
@[inline] def sub (w : UInt32) : UInt32 :=
  sbox.getD (w &&& 0xff).toNat 0

/-- The mixing table at the low byte of a word. -/
@[inline] def mix (w : UInt32) : UInt32 :=
  mixTable.getD (w &&& 0xff).toNat 0

/-- Substitution of each of the four bytes of a word. -/
def subWord (w : UInt32) : UInt32 :=
  sub (w >>> 24) <<< 24 ||| sub (w >>> 16) <<< 16 ||| sub (w >>> 8) <<< 8 ||| sub w

/-! ## Key schedule -/

/-- The round constants `x^0, x^1, …` in the top byte. -/
def roundConstant : Nat → UInt32
  | 0 => 0x01000000
  | n + 1 => double (roundConstant n >>> 24) <<< 24

/-- Appends the next word of the key schedule. -/
def extendKey (w : Array UInt32) : Array UInt32 :=
  let i := w.size
  let last := w.getD (i - 1) 0
  let t :=
    if i % 8 = 0 then subWord (rotateRight last 24) ^^^ roundConstant (i / 8 - 1)
    else if i % 8 = 4 then subWord last
    else last
  w.push (w.getD (i - 8) 0 ^^^ t)

/-- The 60 words of the schedule of a 32-byte key, four for each of the 15 round keys. -/
def expandKey (key : Bytes) : Array UInt32 :=
  Nat.fold 52 (fun _ _ w => extendKey w) (Word.ofBufferBE key).toArray

/-! ## Encryption -/

/-- One mixed output column from the four columns that shifting the rows brings together. -/
@[inline] def column (a b c d k : UInt32) : UInt32 :=
  mix (a >>> 24) ^^^ rotateRight (mix (b >>> 16)) 8 ^^^ rotateRight (mix (c >>> 8)) 16
    ^^^ rotateRight (mix d) 24 ^^^ k

/-- One output column of the last round, which does not mix. -/
@[inline] def lastColumn (a b c d k : UInt32) : UInt32 :=
  (sub (a >>> 24) <<< 24 ||| sub (b >>> 16) <<< 16 ||| sub (c >>> 8) <<< 8 ||| sub d) ^^^ k

/-- The remaining `n` mixing rounds and the last round; `i` is the next word of the schedule. -/
def rounds (w : Array UInt32) : (n i : Nat) → (a b c d : UInt32) → Block
  | 0, i, a, b, c, d =>
    Block.ofWords
      (lastColumn a b c d (w.getD i 0)) (lastColumn b c d a (w.getD (i + 1) 0))
      (lastColumn c d a b (w.getD (i + 2) 0)) (lastColumn d a b c (w.getD (i + 3) 0))
  | n + 1, i, a, b, c, d =>
    rounds w n (i + 4)
      (column a b c d (w.getD i 0)) (column b c d a (w.getD (i + 1) 0))
      (column c d a b (w.getD (i + 2) 0)) (column d a b c (w.getD (i + 3) 0))

/-- The encryption of a block under an expanded key. -/
def encrypt (w : Array UInt32) (x : Block) : Block :=
  rounds w 13 4
    ((x.hi >>> 32).toUInt32 ^^^ w.getD 0 0) (x.hi.toUInt32 ^^^ w.getD 1 0)
    ((x.lo >>> 32).toUInt32 ^^^ w.getD 2 0) (x.lo.toUInt32 ^^^ w.getD 3 0)

end PathSeal.Cipher.Aes
