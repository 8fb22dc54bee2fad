import PathSeal.Duration
import PathSeal.Envelope.Binding
import PathSeal.Envelope.Layout
import PathSeal.Key.Data
import PathSeal.Kms.Wrapper
import PathSeal.Log

/-!
# PathSeal.Envelope.Codec

Sealing and opening objects.

Sealing binds the path, draws a fresh data key and a nonce, encrypts, and has
the data key wrapped. Opening reads the layout, binds the path, has the data key
unwrapped, and decrypts. Each makes at most one call to the key service, after
all checks that need none, and waits for it no longer than the time limit.

Of what it makes the codec logs an event, within a span that is open all the while.
Both tell lengths, never bytes. Work that fails is not logged here.
-/

namespace PathSeal.Envelope

open Kms

/-- How a deployment seals. -/
structure Options where
  algorithm : Cipher.Algorithm
  /-- The longest wait for one call to the key service. -/
  kmsTimeout : Duration
deriving DecidableEq

/-- Galois/counter mode, and ten seconds for a call. -/
def Options.standard : Options where
  algorithm := default
  kmsTimeout := .ofSeconds 10

/-- Seals and opens with a key service. -/
structure Codec (κ : Type) where
  wrapper : Wrapper κ
  options : Options

/-- The dump of the settings; the key service is not shown. -/
def Options.dump (o : Options) : String :=
  s!"EnvelopeCodec \x7b options: CodecOptions \x7b algorithm: {o.algorithm.label}, " ++
    s!"kms_timeout: {o.kmsTimeout.text} \x7d, .. \x7d"

/-- The answer to a call that is waited for no longer than a time limit. One that comes at the very
end of the limit still counts. -/
def bounded (op : String) (limit : Duration) (reply : Timed (Except Kms.Error α)) :
    Timed (Except Error α) :=
  if reply.millis ≤ limit.ticks then ⟨reply.value.mapError .ofKms, reply.millis⟩
  else ⟨.error (.kmsUnavailable s!"KMS {op} timed out after {limit.text}"), limit.ticks⟩

/-- The envelope of an encrypted payload, once its data key is wrapped. -/
def assemble (nonce : Cipher.Nonce) (box : Cipher.Box) (wrappedKey : Key.Wrapped) : Envelope where
  wrappedKey
  nonce
  ciphertext := box.ciphertext
  tag := box.tag

/-- The payload of an envelope, once its data key is unwrapped. -/
def decryptWith (algorithm : Cipher.Algorithm) (e : Envelope) (aad material : Bytes) :
    Except Error Bytes := do
  let dek ← Key.Data.ofUnwrapped material
  (Cipher.decrypt algorithm dek.val e.nonce.val e.ciphertext e.tag.val aad).mapError .ofCipher

/-! ## The log -/

/-- An event at the end of work on an envelope: how long its result is. The span of the work names
the object, the key, and how long that is what it began with. -/
def workEvent (span givenLength : String) (key : Key.Handle) (path : String) (given : Nat)
    (message madeLength : String) (made : Nat) : Log.Event where
  level := .debug
  target := "envelope::codec"
  message
  fields := [(madeLength, .count made)]
  within := [
    { name := span
      level := .info
      target := "envelope::codec"
      fields :=
        [("object_path", .text path), ("key", .text key.uri), (givenLength, .count given)] }]

/-- The event of a plaintext that was sealed. -/
def sealedEvent (key : Key.Handle) (path : String) (plaintextLength wrappedLength : Nat) :
    Log.Event :=
  workEvent "envelope.seal" "plaintext_len" key path plaintextLength
    "sealed" "wrapped_len" wrappedLength

/-- The event of an envelope that was opened. -/
def openedEvent (key : Key.Handle) (path : String) (ciphertextLength plaintextLength : Nat) :
    Log.Event :=
  workEvent "envelope.open" "ciphertext_len" key path ciphertextLength
    "opened" "plaintext_len" plaintextLength

/-- The bytes that sealing or opening makes, and the event that tells of them. -/
@[ext]
structure Made where
  bytes : Bytes
  event : Log.Event
deriving DecidableEq

namespace Codec

/-- Draws the nonce of a payload. -/
def drawNonce : StateM (World κ) Cipher.Nonce :=
  fun w => (⟨w.entropy.peek Cipher.nonceLength, Entropy.length_peek ..⟩,
    { w with entropy := w.entropy.skip Cipher.nonceLength })

/-- Draws a data key. -/
def drawKey : StateM (World κ) Key.Data :=
  fun w => (⟨w.entropy.peek Cipher.keyLength, Entropy.length_peek ..⟩,
    { w with entropy := w.entropy.skip Cipher.keyLength })

/-- Seals a plaintext for an object path under a master key. -/
def sealPayload (codec : Codec κ) (key : Key.Handle) (path : String) (plaintext : Bytes) :
    StateM (World κ) (Timed (Except Error Envelope)) := do
  match associatedData path with
  | .error e => return .now (.error e)
  | .ok aad =>
    let dek ← drawKey
    let nonce ← drawNonce
    match Cipher.encrypt codec.options.algorithm dek.val nonce.val plaintext aad with
    | .error e => return .now (.error (.ofCipher e))
    | .ok box =>
      let reply ← codec.wrapper.wrap key dek.val
      let answer := bounded "wrap" codec.options.kmsTimeout reply
      return { answer with value := answer.value.map (assemble nonce box) }

/-- Seals a plaintext and writes the stored form. -/
def sealToBytes (codec : Codec κ) (key : Key.Handle) (path : String) (plaintext : Bytes) :
    StateM (World κ) (Timed (Except Error Bytes)) := do
  let answer ← codec.sealPayload key path plaintext
  return { answer with value := answer.value.map encode }

/-- Opens an envelope for an object path under a master key. -/
def openEnvelope (codec : Codec κ) (key : Key.Handle) (path : String) (e : Envelope) :
    StateM (World κ) (Timed (Except Error Bytes)) := do
  match associatedData path with
  | .error e => return .now (.error e)
  | .ok aad =>
    let reply ← codec.wrapper.unwrap key e.wrappedKey
    let answer := bounded "unwrap" codec.options.kmsTimeout reply
    return { answer with value := answer.value.bind (decryptWith codec.options.algorithm e aad) }

/-- Reads the stored form of an envelope and opens it. -/
def openBytes (codec : Codec κ) (key : Key.Handle) (path : String) (stored : Bytes) :
    StateM (World κ) (Timed (Except Error Bytes)) := do
  match ofBytes stored with
  | .error e => return .now (.error e)
  | .ok e => codec.openEnvelope key path e

/-- Seals a plaintext, writes the stored form and logs that it is sealed. -/
def sealLogged (codec : Codec κ) (key : Key.Handle) (path : String) (plaintext : Bytes) :
    StateM (World κ) (Timed (Except Error Made)) := do
  let answer ← codec.sealPayload key path plaintext
  let made (e : Envelope) : Made :=
    ⟨encode e, sealedEvent key path plaintext.length e.wrappedKey.length⟩
  return { answer with value := answer.value.map made }

/-- Reads the stored form of an envelope, opens it and logs that it is opened. -/
def openLogged (codec : Codec κ) (key : Key.Handle) (path : String) (stored : Bytes) :
    StateM (World κ) (Timed (Except Error Made)) := do
  match ofBytes stored with
  | .error e => return .now (.error e)
  | .ok e =>
    let answer ← codec.openEnvelope key path e
    let made (plaintext : Bytes) : Made :=
      ⟨plaintext, openedEvent key path e.ciphertext.length plaintext.length⟩
    return { answer with value := answer.value.map made }

end Codec
end PathSeal.Envelope
