import PathSeal.Cipher.Counter
import PathSeal.Cipher.Field

/-!
# PathSeal.Cipher.GcmSiv

AES-256-GCM-SIV (RFC 8452), which survives a repeated nonce. The tag
authenticates the plaintext and the associated data, and the keystream is
derived from that tag; so decryption recovers the plaintext first and checks
the tag afterwards.
-/

namespace PathSeal.Cipher.GcmSiv

/-- The word with its four bytes in reverse order. -/
def reverseWord (w : UInt32) : UInt32 :=
  (Word.rotateRight w 8 &&& (0xff00ff00 : UInt32)) |||
    (Word.rotateRight w 24 &&& (0x00ff00ff : UInt32))

/-- The first half of the encrypted block of a little-endian counter and the nonce. -/
def deriveHalf (w : Array UInt32) (nonce : Bytes) (n : Nat) : Bytes :=
  (Aes.encrypt w (Block.ofBytes (Bytes.ofNatLE 4 n ++ nonce))).toBytes.take 8

/-- The hash key of one nonce. -/
def hashKey (key nonce : Bytes) : Block :=
  let w := Aes.expandKey key
  Block.ofBytes (deriveHalf w nonce 0 ++ deriveHalf w nonce 1)

/-- The expanded encryption key of one nonce. -/
def encryptionKey (key nonce : Bytes) : Array UInt32 :=
  let w := Aes.expandKey key
  Aes.expandKey (deriveHalf w nonce 2 ++ deriveHalf w nonce 3 ++ deriveHalf w nonce 4
    ++ deriveHalf w nonce 5)

/-- The block of two lengths, each in bits and least significant byte first. -/
def lengthBlock (aad data : Bytes) : Block :=
  Block.reverse ⟨(8 * data.length).toUInt64, (8 * aad.length).toUInt64⟩

/-- The 16-byte tag of a plaintext and its associated data. -/
def tag (key nonce plaintext aad : Bytes) : Bytes :=
  let s := polyval (hashKey key nonce)
    (Block.ofBuffer aad ++ Block.ofBuffer plaintext ++ [lengthBlock aad plaintext])
  let s := s ^^^ Block.ofBytes nonce
  (Aes.encrypt (encryptionKey key nonce) ⟨s.hi, s.lo &&& 0xffffffffffffff7f⟩).toBytes

/-- The `i`th counter block of a tag: its first word counts up, least significant byte first,
and its very last bit group starts with a one. -/
def counterBlock (tag : Block) (i : Nat) : Block :=
  let first := reverseWord (reverseWord (tag.hi >>> 32).toUInt32 + i.toUInt32)
  ⟨first.toUInt64 <<< 32 ||| (tag.hi &&& 0xffffffff), tag.lo ||| 0x80⟩

/-- Encrypts or decrypts with the keystream that belongs to a tag. -/
def apply (key nonce tag data : Bytes) : Bytes :=
  let t := Block.ofBytes tag
  applyKeystream (encryptionKey key nonce) (counterBlock t) data

@[simp] theorem length_apply (key nonce tag data : Bytes) :
    (apply key nonce tag data).length = data.length := by
  simp [apply]

@[simp] theorem apply_apply (key nonce tag data : Bytes) :
    apply key nonce tag (apply key nonce tag data) = data := by
  simp [apply]

@[simp] theorem length_tag (key nonce plaintext aad : Bytes) :
    (tag key nonce plaintext aad).length = 16 := rfl

end PathSeal.Cipher.GcmSiv
