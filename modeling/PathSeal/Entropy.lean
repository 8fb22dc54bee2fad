import PathSeal.Bytes

/-!
# PathSeal.Entropy

Random bytes as a stream with a position. Whatever needs randomness draws the
next bytes and moves the position on, so no byte is ever drawn twice.
-/

namespace PathSeal

/-- An endless stream of random bytes and how many have been drawn from it. -/
structure Entropy where
  stream : Nat → UInt8
  position : Nat

namespace Entropy

/-- The `n` bytes that would be drawn next. -/
def peek (e : Entropy) (n : Nat) : Bytes :=
  (List.range n).map fun i => e.stream (e.position + i)

/-- The stream after `n` more bytes. -/
def skip (e : Entropy) (n : Nat) : Entropy :=
  { e with position := e.position + n }

@[simp] theorem length_peek (e : Entropy) (n : Nat) : (e.peek n).length = n := by
  simp [peek]

/-- The stream that repeats a seed for ever; without a seed it counts upwards. -/
def cyclic (seed : Array UInt8) : Entropy where
  stream i :=
    if h : 0 < seed.size then have := Nat.mod_lt i h; seed[i % seed.size]
    else UInt8.ofNat i
  position := 0

end Entropy
end PathSeal
