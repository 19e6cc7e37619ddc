import Aead.Construction.AesGcm
import Aead.Construction.ChaChaPoly
import Aead.Primitive

/-!
# The primitives of the four constructions

Each construction becomes a primitive in the same way. Wrong lengths are refused and leave the
buffers untouched. A wrong tag leaves the ciphertext body in the output: it is copied there first,
and nothing is decrypted before the tag is checked.
-/

namespace Aead

namespace Construction

/-- Seals a message when nonce, tag and body have the right lengths. Messages and associated data
are meant to be shorter than `2 ^ 36 - 32` bytes: up to there the numbers of their blocks do not run
out, and no construction has a reason to refuse them for their length. -/
def sealDetached (c : Construction) {n k : Nat} (cipher : c.Cipher) (body : Buffer n)
    (mac : Buffer k) (message : Bytes) (associatedData : Option Bytes) (nonce : Bytes) :
    SealResult n k :=
  if h : nonce.length = c.nonceLength ∧ k = tagLength ∧ n = message.length then
    let session := c.session cipher nonce
    let text := session.combine message
    { status := .success
      body := ⟨text, by rw [h.2.2, Session.length_combine]⟩
      mac :=
        ⟨(session.tag (associatedData.getD []) text).bytes, by rw [h.2.1, Buffer.length_bytes]⟩ }
  else
    { status := .failure, body, mac }

/-- Opens a body when nonce, tag and output have the right lengths and the tag is right. -/
def openDetached (c : Construction) {n : Nat} (cipher : c.Cipher) (message : Buffer n)
    (body mac : Bytes) (associatedData : Option Bytes) (nonce : Bytes) : OpenResult n :=
  if h : nonce.length = c.nonceLength ∧ mac.length = tagLength ∧ n = body.length then
    let session := c.session cipher nonce
    if session.Authentic (associatedData.getD []) body mac then
      { status := .success
        message := ⟨session.combine body, by rw [h.2.2, Session.length_combine]⟩ }
    else
      { status := .failure, message := ⟨body, h.2.2.symm⟩ }
  else
    { status := .failure, message }

end Construction

namespace Algorithm

/-- The construction of an algorithm. -/
def construction : Algorithm → Construction
  | aes256Gcm => AesGcm.aes256
  | chacha20Poly1305 => ChaChaPoly.shortNonce
  | chacha20Poly1305Ietf => ChaChaPoly.ietf
  | xchacha20Poly1305Ietf => ChaChaPoly.extended

/-- The context of an expanded key. Only AES-256-GCM has contexts. -/
def contextOf? : (algorithm : Algorithm) → algorithm.construction.Cipher → Option Context
  | aes256Gcm, keys => some (.aes256Gcm keys)
  | chacha20Poly1305, _ => none
  | chacha20Poly1305Ietf, _ => none
  | xchacha20Poly1305Ietf, _ => none

/-- The expanded key of a context that was made for the algorithm. -/
def cipherOf? : (algorithm : Algorithm) → Context → Option algorithm.construction.Cipher
  | aes256Gcm, .aes256Gcm keys => some keys
  | chacha20Poly1305, _ => none
  | chacha20Poly1305Ietf, _ => none
  | xchacha20Poly1305Ietf, _ => none

end Algorithm

namespace Provider

/-- The detached functions of an algorithm. -/
def detached (algorithm : Algorithm) : DetachedPrimitive Id algorithm where
  Cipher := algorithm.construction.Cipher
  expand key := (algorithm.construction.expand? key).elim (.error .failure) .ok
  sealDetached := algorithm.construction.sealDetached
  openDetached := algorithm.construction.openDetached
  store := algorithm.contextOf?
  load := algorithm.cipherOf?

/-- The four algorithms themselves. -/
def standard : Provider Id :=
  fun algorithm => (detached algorithm).toPrimitive

end Provider

end Aead
