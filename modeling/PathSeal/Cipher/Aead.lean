import PathSeal.Cipher.Gcm
import PathSeal.Cipher.GcmSiv

/-!
# PathSeal.Cipher.Aead

Authenticated encryption with a detached tag. Both primitives take a 32-byte
key and a 12-byte nonce and give a 16-byte tag; the associated data is
authenticated but not encrypted.

The checks come in a fixed order: key, nonce, tag, then the tag's value.
-/

namespace PathSeal.Cipher

/-- The length of a key in bytes. -/
def keyLength : Nat := 32

/-- The length of a nonce in bytes. -/
def nonceLength : Nat := 12

/-- The length of a tag in bytes. -/
def tagLength : Nat := 16

/-- The longest plaintext and the longest associated data the primitives take. -/
def maxLength : Nat := 68719476736

/-- Buffers of one length. -/
abbrev Sized (n : Nat) := { bs : Bytes // bs.length = n }

/-- A single-use number of 12 bytes. -/
abbrev Nonce := Sized nonceLength

/-- An authentication tag of 16 bytes. -/
abbrev Tag := Sized tagLength

/-! ## Algorithms -/

/-- The primitive that encrypts payloads. -/
inductive Algorithm where
  | aes256Gcm
  | aes256GcmSiv
deriving DecidableEq

namespace Algorithm

/-- Galois/counter mode unless a deployment says otherwise. -/
instance : Inhabited Algorithm := ⟨aes256Gcm⟩

/-- All algorithms, in the order of their declaration. -/
def all : List Algorithm := [aes256Gcm, aes256GcmSiv]

/-- The name in configuration and logs. -/
def name : Algorithm → String
  | aes256Gcm => "aes-256-gcm"
  | aes256GcmSiv => "aes-256-gcm-siv"

/-- The name in structural dumps of settings. -/
def label : Algorithm → String
  | aes256Gcm => "Aes256Gcm"
  | aes256GcmSiv => "Aes256GcmSiv"

end Algorithm

/-! ## Faults -/

/-- Why the cipher layer refused. -/
inductive CipherError where
  | keyLength (length : Nat)
  | nonceLength (length : Nat)
  | tagLength (length : Nat)
  | authentication
  | primitive
  | unknownAlgorithm (name : String)
deriving DecidableEq

/-- The text of a cipher fault. -/
def CipherError.message : CipherError → String
  | .keyLength n => s!"invalid key length: expected {Cipher.keyLength} bytes, got {n}"
  | .nonceLength n => s!"invalid nonce length: expected {Cipher.nonceLength} bytes, got {n}"
  | .tagLength n => s!"invalid tag length: expected {Cipher.tagLength} bytes, got {n}"
  | .authentication => "authentication failed"
  | .primitive => "aead operation failed"
  | .unknownAlgorithm name => s!"unknown AEAD algorithm: {name}"

/-- The algorithm of an exact name. -/
def Algorithm.ofName (name : String) : Except CipherError Algorithm :=
  match all.find? (·.name == name) with
  | some algorithm => .ok algorithm
  | none => .error (.unknownAlgorithm name)

/-! ## Encryption and decryption -/

/-- A ciphertext with its detached tag. -/
structure Box where
  ciphertext : Bytes
  tag : Tag
deriving DecidableEq

/-- The ciphertext and tag that a primitive gives, whatever the lengths. -/
def Algorithm.lock (algorithm : Algorithm) (key nonce plaintext aad : Bytes) : Box :=
  match algorithm with
  | aes256Gcm =>
    let ciphertext := Gcm.apply key nonce plaintext
    ⟨ciphertext, Gcm.tag key nonce ciphertext aad, Gcm.length_tag ..⟩
  | aes256GcmSiv =>
    let tag := GcmSiv.tag key nonce plaintext aad
    ⟨GcmSiv.apply key nonce tag plaintext, tag, GcmSiv.length_tag ..⟩

/-- The plaintext of a ciphertext whose tag verifies. -/
def Algorithm.unlock (algorithm : Algorithm) (key nonce ciphertext tag aad : Bytes) :
    Option Bytes :=
  match algorithm with
  | aes256Gcm =>
    if Gcm.tag key nonce ciphertext aad = tag then some (Gcm.apply key nonce ciphertext) else none
  | aes256GcmSiv =>
    let plaintext := GcmSiv.apply key nonce tag ciphertext
    if GcmSiv.tag key nonce plaintext aad = tag then some plaintext else none

/-- The checks that encryption and decryption begin with. -/
def checkLengths (key nonce : Bytes) : Except CipherError Unit :=
  if key.length ≠ keyLength then .error (.keyLength key.length)
  else if nonce.length ≠ nonceLength then .error (.nonceLength nonce.length)
  else .ok ()

/-- Encrypts a plaintext, authenticating the associated data with it. -/
def encrypt (algorithm : Algorithm) (key nonce plaintext aad : Bytes) : Except CipherError Box := do
  checkLengths key nonce
  if plaintext.length > maxLength ∨ aad.length > maxLength then throw .primitive
  return algorithm.lock key nonce plaintext aad

/-- Decrypts a ciphertext if its tag verifies against the associated data. -/
def decrypt (algorithm : Algorithm) (key nonce ciphertext tag aad : Bytes) :
    Except CipherError Bytes := do
  checkLengths key nonce
  if tag.length ≠ tagLength then throw (.tagLength tag.length)
  if ciphertext.length > maxLength + tagLength ∨ aad.length > maxLength then throw .authentication
  match algorithm.unlock key nonce ciphertext tag aad with
  | some plaintext => return plaintext
  | none => throw .authentication

end PathSeal.Cipher
