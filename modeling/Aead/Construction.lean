import Aead.Session

/-!
# Constructions

A construction says how long its nonces are, which keys it takes, and which session a key and a
nonce fix.
-/

namespace Aead

/-- An authenticated cipher as its definition gives it. -/
structure Construction where
  nonceLength : Nat
  /-- Keys in expanded form. -/
  Cipher : Type
  /-- The expanded form of a key of the right length. -/
  expand? : (key : Bytes) → Option Cipher
  /-- The session of a key and a nonce of `nonceLength` bytes. -/
  session : (cipher : Cipher) → (nonce : Bytes) → Session

end Aead
