import Aead.Cipher.Aes256
import Aead.Cipher.Ghash
import Aead.Construction

/-!
# AES-256 in Galois/counter mode

The keystream encrypts counter blocks: the 96-bit nonce and a 32-bit counter. Counter one masks the
tag and messages start at counter two. The hash key is the encryption of the zero block.
-/

namespace Aead.AesGcm

/-- The encryption of the counter block of a nonce. -/
def counterBlock (keys : Aes256.RoundKeys) (nonce : Bytes) (counter : Nat) : Buffer 16 :=
  Aes256.encrypt keys (nonce ++ Bytes.be 4 counter)

/-- What is hashed: both parts in whole blocks, then both lengths in bits. -/
def tagInput (associatedData body : Bytes) : Bytes :=
  associatedData ++ associatedData.padding16 ++ body ++ body.padding16 ++
    Bytes.be 8 (8 * associatedData.length) ++ Bytes.be 8 (8 * body.length)

/-- The tag: the hash under the block cipher's image of zero, masked with the first counter
block. -/
def tag (keys : Aes256.RoundKeys) (nonce associatedData body : Bytes) : Buffer 16 :=
  let h := Ghash.ofBytes (Aes256.encrypt keys []).bytes
  let mask := Ghash.ofBytes (counterBlock keys nonce 1).bytes
  Ghash.toBuffer (Ghash.hash h (tagInput associatedData body) ^^^ mask)

/-- The session of expanded keys and a 96-bit nonce. -/
def session (keys : Aes256.RoundKeys) (nonce : Bytes) : Session where
  blockLength := 16
  block i := counterBlock keys nonce (2 + i)
  tag := tag keys nonce
  blockLength_pos := Nat.succ_pos 15

/-- AES-256 in Galois/counter mode with 96-bit nonces. -/
def aes256 : Construction where
  nonceLength := 12
  Cipher := Aes256.RoundKeys
  expand? key := (Buffer.ofBytes? 32 key).map Aes256.expandKey
  session := session

end Aead.AesGcm
