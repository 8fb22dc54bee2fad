import PathSeal.Cipher.Block

/-!
# PathSeal.Cipher.Field

Polynomial hashing in the field of 2^128 elements: the hash of Galois/counter
mode (NIST SP 800-38D) and its byte-reversed form (RFC 8452).
-/

namespace PathSeal.Cipher

namespace Block

/-- Horner steps over the `n` low bits of `x`, highest first; `v` is the multiplier shifted so far
and `z` the sum so far. -/
def mulSteps : (n : Nat) → (x zh zl vh vl : UInt64) → Block × Block
  | 0, _, zh, zl, vh, vl => (⟨zh, zl⟩, ⟨vh, vl⟩)
  | n + 1, x, zh, zl, vh, vl =>
    let bit := (0 : UInt64) - (x >>> 63)
    let carry := (0 : UInt64) - (vl &&& 1)
    mulSteps n (x <<< 1) (zh ^^^ (vh &&& bit)) (zl ^^^ (vl &&& bit))
      ((vh >>> 1) ^^^ (carry &&& 0xe100000000000000)) ((vl >>> 1) ||| (vh <<< 63))

/-- The product of two field elements, the first bit of a block being the constant term. -/
def mul (x y : Block) : Block :=
  let (z, v) := mulSteps 64 x.hi 0 0 y.hi y.lo
  (mulSteps 64 x.lo z.hi z.lo v.hi v.lo).1

/-- The product with the polynomial `x`. -/
def mulX (v : Block) : Block :=
  ⟨(v.hi >>> 1) ^^^ (((0 : UInt64) - (v.lo &&& 1)) &&& 0xe100000000000000),
    (v.lo >>> 1) ||| (v.hi <<< 63)⟩

end Block

/-- The polynomial hash of a list of blocks at the point `h`. -/
def ghash (h : Block) (blocks : List Block) : Block :=
  blocks.foldl (fun y x => (y ^^^ x).mul h) .zero

/-- The byte-reversed polynomial hash of a list of blocks at the point `h`. -/
def polyval (h : Block) (blocks : List Block) : Block :=
  (ghash h.reverse.mulX (blocks.map Block.reverse)).reverse

end PathSeal.Cipher
