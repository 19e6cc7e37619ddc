import Aead.Bytes.Buffer

/-!
# One key and one nonce

A key and a nonce together fix a sequence of keystream blocks and a tag for every pair of associated
data and ciphertext body. Sealing combines the message with the keystream and tags the result;
opening compares the tag first and combines again only when it is right.

Results:

* `length_combine`: a body is as long as its message.
* `combine_combine`: combining a body again gives back the message.
-/

namespace Aead

/-- The number of bytes of a tag. -/
def tagLength : Nat := 16

/-- What a key and a nonce fix. -/
structure Session where
  blockLength : Nat
  /-- Keystream blocks by number, the first one for the first bytes of a message. -/
  block : Nat → Buffer blockLength
  /-- The tag of associated data and a ciphertext body. -/
  tag : (associatedData body : Bytes) → Buffer tagLength
  blockLength_pos : 0 < blockLength := by decide

namespace Session

/-- The first keystream blocks, enough for `n` bytes. -/
def keystream (s : Session) (n : Nat) : Bytes :=
  (List.range (n / s.blockLength + 1)).flatMap fun i => (s.block i).bytes

theorem length_flatMap_block (s : Session) (n : Nat) :
    ((List.range n).flatMap fun i => (s.block i).bytes).length = n * s.blockLength := by
  simp only [List.length_flatMap, Buffer.length_bytes, List.map_const', List.length_range,
    List.sum_replicate_nat]

theorem length_keystream (s : Session) (n : Nat) :
    (s.keystream n).length = (n / s.blockLength + 1) * s.blockLength :=
  s.length_flatMap_block (n / s.blockLength + 1)

theorem le_length_keystream (s : Session) (n : Nat) : n ≤ (s.keystream n).length := by
  rw [length_keystream]
  exact Nat.le_of_lt (Nat.lt_mul_of_div_lt (Nat.lt_succ_self _) s.blockLength_pos)

/-- A text combined with the keystream: the ciphertext body of a message, and back. -/
def combine (s : Session) (text : Bytes) : Bytes :=
  text.xor (s.keystream text.length)

@[simp] theorem length_combine (s : Session) (text : Bytes) :
    (s.combine text).length = text.length := by
  simp [combine, Nat.min_eq_left (s.le_length_keystream _)]

/-- Combining a body again gives back the message. -/
theorem combine_combine (s : Session) (text : Bytes) : s.combine (s.combine text) = text := by
  change (s.combine text).xor (s.keystream (s.combine text).length) = text
  rw [length_combine]
  exact Bytes.xor_xor_right _ _ (s.le_length_keystream _)

/-- The bytes are the tag of the body and the associated data. -/
def Authentic (s : Session) (associatedData body mac : Bytes) : Prop :=
  (s.tag associatedData body).bytes = mac

instance (s : Session) (associatedData body mac : Bytes) :
    Decidable (s.Authentic associatedData body mac) :=
  inferInstanceAs (Decidable (_ = _))

end Session

end Aead
