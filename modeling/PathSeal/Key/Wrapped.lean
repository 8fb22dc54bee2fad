import PathSeal.Bytes

/-!
# PathSeal.Key.Wrapped

A data key encrypted under a master key. It is safe to store.
-/

namespace PathSeal.Key

/-- The most bytes a wrapped key may have; real ones have a few hundred. -/
def maxWrappedLength : Nat := 8192

/-- A data key encrypted under a master key. -/
structure Wrapped where
  bytes : Bytes
  length_pos : 0 < bytes.length
  length_le : bytes.length ≤ maxWrappedLength
deriving DecidableEq

/-- Why bytes are no wrapped key. -/
inductive WrappedError where
  | empty
  | tooLong (length : Nat)
deriving DecidableEq

/-- The text of a wrapped-key fault. -/
def WrappedError.message : WrappedError → String
  | empty => "wrapped key must not be empty"
  | tooLong n => s!"wrapped key of {n} bytes exceeds the {maxWrappedLength}-byte limit"

namespace Wrapped

/-- The wrapped key of some bytes, unless there are none or too many. -/
def ofBytes (bs : Bytes) : Except WrappedError Wrapped :=
  if h : bs.length = 0 then .error .empty
  else if h' : bs.length ≤ maxWrappedLength then .ok ⟨bs, Nat.pos_of_ne_zero h, h'⟩
  else .error (.tooLong bs.length)

/-- The number of bytes. -/
def length (w : Wrapped) : Nat := w.bytes.length

end Wrapped
end PathSeal.Key
