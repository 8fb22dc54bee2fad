import PathSeal.Cipher.Aead
import PathSeal.Digest.Hmac
import PathSeal.Kms.Wrapper

/-!
# PathSeal.Kms.Local

Key management inside the process, for development and tests. Master keys are
random or derived from a seed. A wrapped key is a nonce, a ciphertext and a tag,
with the handle's URI as associated data: it never unwraps under another handle.
-/

namespace PathSeal.Kms

/-- The shortest seed that master keys are derived from. -/
def minSeedLength : Nat := 32

/-- The 32 bytes of a master key. -/
abbrev MasterKey := Cipher.Sized Cipher.keyLength

/-- The registered master keys, each handle at most once. -/
structure Local where
  keys : List (Key.Handle × MasterKey)

/-- Why a master key could not be registered. -/
inductive SeedError where
  | tooShort (length : Nat)
deriving DecidableEq

/-- The text of a seed fault. -/
def SeedError.message : SeedError → String
  | tooShort n => s!"local KMS seed must be at least {minSeedLength} bytes, got {n}"

namespace Local

/-- No registered keys. -/
def empty : Local := ⟨[]⟩

/-- Registers a master key; an earlier one of the same handle is replaced. -/
def register (kms : Local) (handle : Key.Handle) (key : MasterKey) : Local :=
  ⟨(handle, key) :: kms.keys.filter (·.1 ≠ handle)⟩

/-- The master key of a handle. -/
def find? (kms : Local) (handle : Key.Handle) : Option MasterKey :=
  kms.keys.lookup handle

/-- Whether a handle is registered. -/
def contains (kms : Local) (handle : Key.Handle) : Bool :=
  (kms.find? handle).isSome

/-- The master key that a seed gives a handle. -/
def derivedKey (seed : Bytes) (handle : Key.Handle) : MasterKey :=
  ⟨Digest.hmacSha256 seed (Bytes.ofString handle.uri), Digest.length_hmacSha256 ..⟩

/-- Registers a handle with the key derived from a seed. -/
def registerDerived (kms : Local) (seed : Bytes) (handle : Key.Handle) : Except SeedError Local :=
  if seed.length < minSeedLength then .error (.tooShort seed.length)
  else .ok (kms.register handle (derivedKey seed handle))

/-- Registers a handle with the next 32 random bytes. -/
def registerRandom (kms : Local) (entropy : Entropy) (handle : Key.Handle) : Local × Entropy :=
  (kms.register handle ⟨entropy.peek Cipher.keyLength, Entropy.length_peek ..⟩,
    entropy.skip Cipher.keyLength)

/-- Encrypts a data key under a master key with a nonce. -/
def wrapWith (key : MasterKey) (handle : Key.Handle) (nonce dek : Bytes) :
    Except Error Key.Wrapped :=
  match Cipher.encrypt .aes256Gcm key.val nonce dek (Bytes.ofString handle.uri) with
  | .ok box => wrappedOfResponse (nonce ++ box.ciphertext ++ box.tag.val)
  | .error e => .error (.unavailable s!"local wrap failed: {e.message}")

/-- Decrypts a wrapped key under a master key. -/
def unwrapWith (key : MasterKey) (handle : Key.Handle) (blob : Bytes) : Except Error Bytes :=
  if blob.length < Cipher.nonceLength + Cipher.tagLength then
    .error (.integrity s!"wrapped key of {blob.length} bytes is too short")
  else
    let rest := blob.drop Cipher.nonceLength
    let split := rest.length - Cipher.tagLength
    match Cipher.decrypt .aes256Gcm key.val (blob.take Cipher.nonceLength) (rest.take split)
        (rest.drop split) (Bytes.ofString handle.uri) with
    | .ok dek => .ok dek
    | .error _ => .error (.integrity s!"wrapped key does not verify under {handle}")

/-- The fault of a handle that is not registered. -/
def unknown (handle : Key.Handle) : Error :=
  .keyNotFound s!"no local master key for {handle}"

/-- The service of the registered keys. It answers at once; wrapping draws a nonce, but only for a
registered handle. -/
def wrapper (kms : Local) : Wrapper κ where
  wrap handle dek := do
    match kms.find? handle with
    | none => return .now (.error (unknown handle))
    | some key =>
      let nonce ← draw Cipher.nonceLength
      return .now (wrapWith key handle nonce dek)
  unwrap handle wrapped := do
    match kms.find? handle with
    | none => return .now (.error (unknown handle))
    | some key => return .now (unwrapWith key handle wrapped.bytes)

/-- The dump of the registered keys, which shows only how many there are. -/
def dump (kms : Local) : String :=
  s!"LocalKmsWrapper \x7b keys: {kms.keys.length} \x7d"

end Local
end PathSeal.Kms
