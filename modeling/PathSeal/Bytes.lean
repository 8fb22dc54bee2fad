/-!
# PathSeal.Bytes

Byte buffers as lists, with the few operations every layer shares: words in
base 256, the pointwise exclusive or, splitting into pieces of one size, and
the UTF-8 form of a text.

Buffers may hold megabytes, so the operations run in constant stack space.
-/

namespace PathSeal

/-- A buffer of bytes, first byte first. -/
abbrev Bytes := List UInt8

namespace Bytes

/-! ## Words -/

/-- The number whose digits in base 256 are the bytes, most significant first. -/
def toNatBE (bs : Bytes) : Nat :=
  bs.foldl (fun n b => 256 * n + b.toNat) 0

/-- The `width` low digits of a number in base 256, least significant first. -/
def ofNatLE : (width n : Nat) → Bytes
  | 0, _ => []
  | width + 1, n => UInt8.ofNat n :: ofNatLE width (n / 256)

/-- The `width` low digits of a number in base 256, most significant first. -/
def ofNatBE (width n : Nat) : Bytes :=
  (ofNatLE width n).reverse

@[simp] theorem length_ofNatLE (width n : Nat) : (ofNatLE width n).length = width := by
  induction width generalizing n with
  | zero => rfl
  | succ width ih => simp [ofNatLE, ih]

@[simp] theorem length_ofNatBE (width n : Nat) : (ofNatBE width n).length = width := by
  simp [ofNatBE]

/-! ## Exclusive or -/

/-- The pointwise exclusive or, as long as the shorter buffer. -/
def xor (xs ys : Bytes) : Bytes :=
  List.zipWith (· ^^^ ·) xs ys

@[simp] theorem length_xor (xs ys : Bytes) : (xor xs ys).length = min xs.length ys.length := by
  simp [xor]

/-- The same mask twice gives the data back, provided the mask is long enough. -/
theorem xor_xor_cancel (xs ys : Bytes) (h : xs.length ≤ ys.length) : xor (xor xs ys) ys = xs := by
  induction xs generalizing ys with
  | nil => simp [xor]
  | cons x xs ih =>
    cases ys with
    | nil => simp at h
    | cons y ys =>
      have := ih ys (by simpa using h)
      simp only [xor, List.zipWith_cons_cons] at this ⊢
      rw [this, UInt8.xor_assoc, UInt8.xor_self, UInt8.xor_zero]

/-! ## Pieces of one size -/

/-- Takes `count` pieces of `size` bytes off the front, with those already taken in reverse. -/
def takePieces (size : Nat) : (count : Nat) → Bytes → List Bytes → List Bytes
  | 0, _, taken => taken.reverse
  | count + 1, bs, taken => takePieces size count (bs.drop size) (bs.take size :: taken)

/-- The buffer cut into pieces of `size` bytes; the last one may be shorter. -/
def pieces (size : Nat) (bs : Bytes) : List Bytes :=
  takePieces size ((bs.length + size - 1) / size) bs []

/-! ## Texts -/

/-- The UTF-8 form of a text. -/
def ofString (s : String) : Bytes :=
  s.toUTF8.data.toList

/-- The text whose UTF-8 form the bytes are, if they are one. -/
def toString? (bs : Bytes) : Option String :=
  String.fromUTF8? ⟨bs.toArray⟩

end Bytes
end PathSeal
