import PathSeal.Cipher.Aead
import PathSeal.Envelope.Error
import PathSeal.Key.Wrapped

/-!
# PathSeal.Envelope.Layout

The stored form of a sealed object:

    length of the wrapped key, 4 bytes, most significant first
    wrapped key
    nonce, 12 bytes
    ciphertext
    tag, 16 bytes

There is no object path in it. A reader binds the path it asked for, so an
envelope cannot claim to be another object. Reading looks at lengths only and
uses neither cipher nor key service.
-/

namespace PathSeal

/-- A sealed object: all that is needed to open it but its path. -/
structure Envelope where
  wrappedKey : Key.Wrapped
  nonce : Cipher.Nonce
  ciphertext : Bytes
  tag : Cipher.Tag
deriving DecidableEq

namespace Envelope

/-- The bytes of the length that comes first. -/
def lengthPrefix : Nat := 4

/-- The most bytes an envelope adds to its plaintext. -/
def maxOverhead : Nat :=
  lengthPrefix + Key.maxWrappedLength + Cipher.nonceLength + Cipher.tagLength

/-- The length of the stored form. -/
def encodedLength (e : Envelope) : Nat :=
  lengthPrefix + e.wrappedKey.length + Cipher.nonceLength + e.ciphertext.length + Cipher.tagLength

/-- The stored form. -/
def encode (e : Envelope) : Bytes :=
  Bytes.ofNatBE lengthPrefix e.wrappedKey.length ++ e.wrappedKey.bytes ++ e.nonce.val
    ++ e.ciphertext ++ e.tag.val

/-- Why bytes are not the stored form of an envelope. -/
inductive LayoutError where
  | truncatedPrefix (available : Nat)
  | emptyWrappedKey
  | overrun (declared available : Nat)
  | wrappedKey (error : Key.WrappedError)
  | truncatedTail (available : Nat)
deriving DecidableEq

/-- The text of a layout fault. -/
def LayoutError.message : LayoutError → String
  | truncatedPrefix available => s!"truncated length prefix: {available} bytes"
  | emptyWrappedKey => "wrapped key length is zero"
  | overrun declared available =>
    s!"wrapped key length {declared} overruns buffer of {available} bytes"
  | wrappedKey error => error.message
  | truncatedTail available =>
    s!"{available} bytes remain after wrapped key; " ++
      s!"nonce and tag need {Cipher.nonceLength + Cipher.tagLength}"

/-- The envelope that follows its wrapped key: a nonce, a ciphertext and a tag. -/
def decodeTail (wrappedKey : Key.Wrapped) (rest : Bytes) : Except LayoutError Envelope :=
  if h : Cipher.nonceLength + Cipher.tagLength ≤ rest.length then
    let body := rest.drop Cipher.nonceLength
    let split := body.length - Cipher.tagLength
    .ok {
      wrappedKey
      nonce := ⟨rest.take Cipher.nonceLength, by simp [List.length_take]; omega⟩
      ciphertext := body.take split
      tag := ⟨body.drop split, by simp [body, split, List.length_drop]; omega⟩ }
  else .error (.truncatedTail rest.length)

/-- The envelope that the bytes are the stored form of. -/
def decode (bs : Bytes) : Except LayoutError Envelope := do
  if bs.length < lengthPrefix then throw (.truncatedPrefix bs.length)
  let declared := Bytes.toNatBE (bs.take lengthPrefix)
  let rest := bs.drop lengthPrefix
  if declared = 0 then throw .emptyWrappedKey
  if declared > rest.length then throw (.overrun declared rest.length)
  match Key.Wrapped.ofBytes (rest.take declared) with
  | .ok wrappedKey => decodeTail wrappedKey (rest.drop declared)
  | .error e => throw (.wrappedKey e)

/-- Reads the stored form; any layout fault makes the envelope malformed. -/
def ofBytes (bs : Bytes) : Except Error Envelope :=
  match decode bs with
  | .ok e => .ok e
  | .error e => .error (.malformed e.message)

end Envelope
end PathSeal
