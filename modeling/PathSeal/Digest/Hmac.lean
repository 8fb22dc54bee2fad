import PathSeal.Digest.Sha256

/-!
# PathSeal.Digest.Hmac

HMAC over SHA-256 (RFC 2104), from which local master keys are derived.
-/

namespace PathSeal.Digest

/-- A key fitted to the 64-byte block of SHA-256: a longer one is replaced by its digest. -/
def hmacBlock (key : Bytes) : Bytes :=
  let key := if key.length ≤ 64 then key else sha256 key
  key ++ List.replicate (64 - key.length) 0

/-- The 32-byte HMAC-SHA256 code of a message under a key. -/
def hmacSha256 (key message : Bytes) : Bytes :=
  let block := hmacBlock key
  sha256 (block.map (· ^^^ 0x5c) ++ sha256 (block.map (· ^^^ 0x36) ++ message))

@[simp] theorem length_hmacSha256 (key message : Bytes) :
    (hmacSha256 key message).length = 32 := by
  simp [hmacSha256]

end PathSeal.Digest
