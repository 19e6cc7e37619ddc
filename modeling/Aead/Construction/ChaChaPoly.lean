import Aead.Cipher.ChaCha20
import Aead.Cipher.Poly1305
import Aead.Construction

/-!
# ChaCha20 with Poly1305

Three constructions share the keystream and the authenticator. The block numbered zero gives the
one-time authenticator key and no message byte is combined with it: messages start at block one.

* `shortNonce`: 64-bit nonces and 64-bit block numbers; nothing is padded in what is authenticated.
* `ietf`: 96-bit nonces and 32-bit block numbers; associated data and body are each padded to whole
  16-byte blocks.
* `extended`: 192-bit nonces; the first 128 bits go into a derived key, under which the others are
  an `ietf` nonce after four zero bytes.
-/

namespace Aead.ChaChaPoly

/-- The one-time authenticator key: the first half of a keystream block. -/
def authenticatorKey (block : Buffer 64) : Buffer 32 :=
  block.slice 0 32 (by decide)

/-- What is authenticated without padding: each part followed by its length. -/
def plainTagInput (associatedData body : Bytes) : Bytes :=
  associatedData ++ Bytes.le 8 associatedData.length ++ body ++ Bytes.le 8 body.length

/-- What is authenticated with padding: both parts in whole blocks, then both lengths. -/
def paddedTagInput (associatedData body : Bytes) : Bytes :=
  associatedData ++ associatedData.padding16 ++ body ++ body.padding16 ++
    Bytes.le 8 associatedData.length ++ Bytes.le 8 body.length

/-- Keystream block `i` of the cipher with 64-bit nonces. -/
def shortNonceBlock (key : Buffer 32) (nonce : Bytes) (i : Nat) : Buffer 64 :=
  ChaCha20.block key #v[i.toUInt32, (i / Nat.pow 2 32).toUInt32, nonce.word32 0, nonce.word32 1]

/-- Keystream block `i` of the cipher with 96-bit nonces. -/
def ietfBlock (key : Buffer 32) (nonce : Bytes) (i : Nat) : Buffer 64 :=
  ChaCha20.block key #v[i.toUInt32, nonce.word32 0, nonce.word32 1, nonce.word32 2]

/-- The session over numbered blocks with an encoding of what is authenticated. -/
def session (block : Nat → Buffer 64) (tagInput : Bytes → Bytes → Bytes) : Session where
  blockLength := 64
  block i := block (1 + i)
  tag associatedData body :=
    Poly1305.tag (authenticatorKey (block 0)) (tagInput associatedData body)

/-- The construction with 64-bit nonces. -/
def shortNonce : Construction where
  nonceLength := 8
  Cipher := Buffer 32
  expand? := Buffer.ofBytes? 32
  session key nonce := session (shortNonceBlock key nonce) plainTagInput

/-- The session of the construction with 96-bit nonces. -/
def ietfSession (key : Buffer 32) (nonce : Bytes) : Session :=
  session (ietfBlock key nonce) paddedTagInput

/-- The construction with 96-bit nonces. -/
def ietf : Construction where
  nonceLength := 12
  Cipher := Buffer 32
  expand? := Buffer.ofBytes? 32
  session := ietfSession

/-- The construction with 192-bit nonces. -/
def extended : Construction where
  nonceLength := 24
  Cipher := Buffer 32
  expand? := Buffer.ofBytes? 32
  session key nonce :=
    ietfSession (ChaCha20.subkey key (nonce.take 16)) ([0, 0, 0, 0] ++ nonce.drop 16)

end Aead.ChaChaPoly
