import PathSeal.Cipher.Counter
import PathSeal.Cipher.Field

/-!
# PathSeal.Cipher.Gcm

AES-256 in Galois/counter mode with 96-bit nonces (NIST SP 800-38D). The
keystream depends on key and nonce alone; the tag authenticates the ciphertext
and the associated data.
-/

namespace PathSeal.Cipher.Gcm

/-- The block of a nonce followed by a 32-bit counter. -/
def counterBlock (nonce : Block) (n : UInt32) : Block :=
  ⟨nonce.hi, (nonce.lo &&& 0xffffffff00000000) ||| n.toUInt64⟩

/-- The block of two lengths, each in bits. -/
def lengthBlock (aad data : Bytes) : Block :=
  ⟨(8 * aad.length).toUInt64, (8 * data.length).toUInt64⟩

/-- Encrypts or decrypts: the counter starts at 2, since 1 masks the tag. -/
def apply (key nonce data : Bytes) : Bytes :=
  let n := Block.ofBytes nonce
  applyKeystream (Aes.expandKey key) (fun i => counterBlock n (i.toUInt32 + 2)) data

/-- The 16-byte tag of a ciphertext and its associated data. -/
def tag (key nonce ciphertext aad : Bytes) : Bytes :=
  let w := Aes.expandKey key
  let s := ghash (Aes.encrypt w .zero)
    (Block.ofBuffer aad ++ Block.ofBuffer ciphertext ++ [lengthBlock aad ciphertext])
  (s ^^^ Aes.encrypt w (counterBlock (Block.ofBytes nonce) 1)).toBytes

@[simp] theorem length_apply (key nonce data : Bytes) :
    (apply key nonce data).length = data.length := by
  simp [apply]

@[simp] theorem apply_apply (key nonce data : Bytes) :
    apply key nonce (apply key nonce data) = data := by
  simp [apply]

@[simp] theorem length_tag (key nonce ciphertext aad : Bytes) :
    (tag key nonce ciphertext aad).length = 16 := rfl

end PathSeal.Cipher.Gcm
