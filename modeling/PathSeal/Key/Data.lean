import PathSeal.Envelope.Error

/-!
# PathSeal.Key.Data

The 32-byte key that one object is encrypted under.
-/

namespace PathSeal.Key

/-- A data key. -/
abbrev Data := Cipher.Sized Cipher.keyLength

namespace Data

/-- The data key that a key service gave back. A wrong length means that the wrapped key or the
master key is wrong, so it is an integrity fault. -/
def ofUnwrapped (material : Bytes) : Except Envelope.Error Data :=
  if h : material.length = Cipher.keyLength then .ok ⟨material, h⟩
  else .error (.integrity (.wrappedKey
    s!"unwrapped key has invalid length: expected {Cipher.keyLength} bytes, got {material.length}"))

/-- What is left of a data key after its use. -/
def erased : Data :=
  ⟨List.replicate Cipher.keyLength 0, by simp⟩

/-- The dump of a data key shows nothing of it. -/
def dump (_ : Data) : String := "DataEncryptionKey([REDACTED])"

end Data
end PathSeal.Key
