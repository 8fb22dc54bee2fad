import PathSeal.Envelope.Error

/-!
# PathSeal.Envelope.Binding

The associated data that ties an envelope to its object: the UTF-8 form of the
path, exactly as given. Nothing is trimmed, folded or normalised, so paths that
differ in a single character are different objects.
-/

namespace PathSeal.Envelope

/-- The associated data of an object path, which must not be empty. -/
def associatedData (path : String) : Except Error Bytes :=
  if path.isEmpty then .error (.invalidIdentity "object path must not be empty")
  else .ok (Bytes.ofString path)

end PathSeal.Envelope
