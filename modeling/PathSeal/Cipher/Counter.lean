import PathSeal.Cipher.Aes

/-!
# PathSeal.Cipher.Counter

Counter mode: data is combined with the encryptions of successive counter
blocks. Applying the same keystream twice gives the data back
(`applyKeystream_applyKeystream`), and lengths never change.
-/

namespace PathSeal.Cipher

/-- The encryptions of the first `blocks` counter blocks, one after the other. -/
def keystream (w : Array UInt32) (counter : Nat → Block) (blocks : Nat) : Bytes :=
  (List.range blocks).flatMap fun i => (Aes.encrypt w (counter i)).toBytes

@[simp] theorem length_keystream (w : Array UInt32) (counter : Nat → Block) (blocks : Nat) :
    (keystream w counter blocks).length = 16 * blocks := by
  simp [keystream, List.length_flatMap, List.map_const', Nat.mul_comm]

/-- Combines data with as much keystream as it needs. -/
def applyKeystream (w : Array UInt32) (counter : Nat → Block) (data : Bytes) : Bytes :=
  Bytes.xor data (keystream w counter ((data.length + 15) / 16))

@[simp] theorem length_applyKeystream (w : Array UInt32) (counter : Nat → Block) (data : Bytes) :
    (applyKeystream w counter data).length = data.length := by
  simp [applyKeystream]; omega

/-- Decryption in counter mode is encryption again. -/
@[simp] theorem applyKeystream_applyKeystream (w : Array UInt32) (counter : Nat → Block)
    (data : Bytes) : applyKeystream w counter (applyKeystream w counter data) = data := by
  have h := length_applyKeystream w counter data
  rw [applyKeystream, h]
  exact Bytes.xor_xor_cancel _ _ (by simp; omega)

end PathSeal.Cipher
