import PathSeal.Bytes

/-!
# PathSeal.Word

Words of 32 bits, the unit of the block cipher and of the digests: rotation, and
the words that a buffer holds in either order of bytes.
-/

namespace PathSeal.Word

/-- The word rotated left by `n` bits, for `n` from 1 to 31. -/
@[inline] def rotateLeft (w n : UInt32) : UInt32 :=
  (w <<< n) ||| (w >>> (32 - n))

/-- The word rotated right by `n` bits, for `n` from 1 to 31. -/
@[inline] def rotateRight (w n : UInt32) : UInt32 :=
  (w >>> n) ||| (w <<< (32 - n))

/-- The word of four bytes, most significant first. -/
@[inline] def ofBytes (a b c d : UInt8) : UInt32 :=
  a.toUInt32 <<< 24 ||| b.toUInt32 <<< 16 ||| c.toUInt32 <<< 8 ||| d.toUInt32

/-- The words of a buffer, most significant byte first; bytes that fill no word do not count. -/
def ofBufferBE : Bytes → List UInt32
  | a :: b :: c :: d :: rest => ofBytes a b c d :: ofBufferBE rest
  | _ => []

/-- The words of a buffer, least significant byte first; bytes that fill no word do not count. -/
def ofBufferLE : Bytes → List UInt32
  | a :: b :: c :: d :: rest => ofBytes d c b a :: ofBufferLE rest
  | _ => []

end PathSeal.Word
