import PathSeal.Bytes

/-!
# PathSeal.Cipher.Block

Blocks of 128 bits: the unit of the block cipher, of its counter mode and of
the polynomial hash.
-/

namespace PathSeal.Cipher

/-- A block of 16 bytes, as two big-endian words. -/
structure Block where
  hi : UInt64
  lo : UInt64
deriving DecidableEq

namespace Block

/-- The block of zeros. -/
def zero : Block := ⟨0, 0⟩

/-- The block of four big-endian words. -/
@[inline] def ofWords (a b c d : UInt32) : Block :=
  ⟨a.toUInt64 <<< 32 ||| b.toUInt64, c.toUInt64 <<< 32 ||| d.toUInt64⟩

/-- Shifts a byte in at the low end. -/
@[inline] def push (x : Block) (b : UInt8) : Block :=
  ⟨x.hi <<< 8 ||| x.lo >>> 56, x.lo <<< 8 ||| b.toUInt64⟩

/-- The block of the first 16 bytes of a buffer, filled up with zeros at the end. -/
def ofBytes (bs : Bytes) : Block :=
  let bs := bs.take 16
  Nat.fold (16 - bs.length) (fun _ _ x => x.push 0) (bs.foldl push zero)

/-- The eight bytes of a word, most significant first. -/
def wordBytes (w : UInt64) : Bytes :=
  [(w >>> 56).toUInt8, (w >>> 48).toUInt8, (w >>> 40).toUInt8, (w >>> 32).toUInt8,
    (w >>> 24).toUInt8, (w >>> 16).toUInt8, (w >>> 8).toUInt8, w.toUInt8]

/-- The 16 bytes of a block. -/
def toBytes (x : Block) : Bytes :=
  wordBytes x.hi ++ wordBytes x.lo

@[simp] theorem length_toBytes (x : Block) : x.toBytes.length = 16 := rfl

/-- The bitwise exclusive or. -/
@[inline] protected def xor (x y : Block) : Block :=
  ⟨x.hi ^^^ y.hi, x.lo ^^^ y.lo⟩

instance : XorOp Block := ⟨Block.xor⟩

/-- A word with its bytes in reverse order. -/
def reverseWord (w : UInt64) : UInt64 :=
  ofBytes 0 (wordBytes w)
where
  /-- Puts bytes on top of a word, the first one lowest. -/
  ofBytes (shift : UInt64) : Bytes → UInt64
    | [] => 0
    | b :: bs => b.toUInt64 <<< shift ||| ofBytes (shift + 8) bs

/-- The block with its bytes in reverse order. -/
def reverse (x : Block) : Block :=
  ⟨reverseWord x.lo, reverseWord x.hi⟩

/-- The blocks of a buffer, the last one filled up with zeros. -/
def ofBuffer (bs : Bytes) : List Block :=
  (Bytes.pieces 16 bs).map ofBytes

end Block
end PathSeal.Cipher
