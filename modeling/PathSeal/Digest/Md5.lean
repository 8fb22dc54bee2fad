import PathSeal.Word

/-!
# PathSeal.Digest.Md5

The MD5 digest of a buffer (RFC 1321). It serves only as a transfer checksum
of response bodies, never as a security measure.
-/

namespace PathSeal.Digest.Md5

/-- The four chaining words. -/
structure State where
  a : UInt32
  b : UInt32
  c : UInt32
  d : UInt32

/-- The chaining words before the first block. -/
def State.initial : State :=
  ⟨0x67452301, 0xefcdab89, 0x98badcfe, 0x10325476⟩

/-- One constant for each of the 64 steps: the integer part of `2^32 * |sin (t + 1)|`. -/
def stepConstants : Array UInt32 :=
  #[
    0xd76aa478, 0xe8c7b756, 0x242070db, 0xc1bdceee, 0xf57c0faf, 0x4787c62a,
    0xa8304613, 0xfd469501, 0x698098d8, 0x8b44f7af, 0xffff5bb1, 0x895cd7be,
    0x6b901122, 0xfd987193, 0xa679438e, 0x49b40821, 0xf61e2562, 0xc040b340,
    0x265e5a51, 0xe9b6c7aa, 0xd62f105d, 0x02441453, 0xd8a1e681, 0xe7d3fbc8,
    0x21e1cde6, 0xc33707d6, 0xf4d50d87, 0x455a14ed, 0xa9e3e905, 0xfcefa3f8,
    0x676f02d9, 0x8d2a4c8a, 0xfffa3942, 0x8771f681, 0x6d9d6122, 0xfde5380c,
    0xa4beea44, 0x4bdecfa9, 0xf6bb4b60, 0xbebfbc70, 0x289b7ec6, 0xeaa127fa,
    0xd4ef3085, 0x04881d05, 0xd9d4d039, 0xe6db99e5, 0x1fa27cf8, 0xc4ac5665,
    0xf4292244, 0x432aff97, 0xab9423a7, 0xfc93a039, 0x655b59c3, 0x8f0ccc92,
    0xffeff47d, 0x85845dd1, 0x6fa87e4f, 0xfe2ce6e0, 0xa3014314, 0x4e0811a1,
    0xf7537e82, 0xbd3af235, 0x2ad7d2bb, 0xeb86d391
  ]

/-- The rotations of a step, which repeat every four steps within each of the four rounds. -/
def stepRotations : Array UInt32 :=
  #[7, 12, 17, 22, 5, 9, 14, 20, 4, 11, 16, 23, 6, 10, 15, 21]

/-- The mixing function of step `t` and the index of the message word it takes. -/
def mix (t : Nat) (b c d : UInt32) : UInt32 × Nat :=
  if t < 16 then ((b &&& c) ||| (~~~b &&& d), t)
  else if t < 32 then ((d &&& b) ||| (~~~d &&& c), (5 * t + 1) % 16)
  else if t < 48 then (b ^^^ c ^^^ d, (3 * t + 5) % 16)
  else (c ^^^ (b ||| ~~~d), 7 * t % 16)

/-- Step `t` over the words of a block. -/
def State.step (w : Array UInt32) (t : Nat) (s : State) : State :=
  let (f, index) := mix t s.b s.c s.d
  let x := s.a + f + stepConstants.getD t 0 + w.getD index 0
  ⟨s.d, s.b + Word.rotateLeft x (stepRotations.getD (t / 16 * 4 + t % 4) 0), s.b, s.c⟩

/-- Absorbs one block of 64 bytes. -/
def State.absorb (s : State) (block : Bytes) : State :=
  let w := (Word.ofBufferLE block).toArray
  let r := Nat.fold 64 (fun t _ r => r.step w t) s
  ⟨s.a + r.a, s.b + r.b, s.c + r.c, s.d + r.d⟩

/-- The message with a one bit, zeros and its bit length, a multiple of 64 bytes long. -/
def padded (message : Bytes) : Bytes :=
  message ++ 0x80 :: List.replicate ((119 - message.length % 64) % 64) 0
    ++ Bytes.ofNatLE 8 (8 * message.length)

/-- The chaining words, least significant byte first. -/
def State.toBytes (s : State) : Bytes :=
  [s.a, s.b, s.c, s.d].flatMap fun w => Bytes.ofNatLE 4 w.toNat

@[simp] theorem State.length_toBytes (s : State) : s.toBytes.length = 16 := by
  simp [State.toBytes]

end PathSeal.Digest.Md5

namespace PathSeal.Digest

/-- The 16-byte MD5 digest of a message. -/
def md5 (message : Bytes) : Bytes :=
  ((Bytes.pieces 64 (Md5.padded message)).foldl Md5.State.absorb .initial).toBytes

@[simp] theorem length_md5 (message : Bytes) : (md5 message).length = 16 := by
  simp [md5]

end PathSeal.Digest
