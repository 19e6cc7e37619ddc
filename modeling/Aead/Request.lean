import Aead.AssociatedData
import Aead.Context
import Aead.Operation

/-!
# Requests and their answers

What a caller hands over for one call, and what an accepted call hands back. Nothing in a request
has been checked yet.
-/

namespace Aead

/-- The key of one call. -/
inductive KeyInput where
  | raw (key : Bytes)
  | context (context : Context)

namespace KeyInput

/-- Whether the key still has to be expanded. -/
def strategy : KeyInput → KeyStrategy
  | raw _ => .rawKey
  | context _ => .precomputed

end KeyInput

/-- Ciphertext and tag apart. -/
structure Detached where
  ciphertext : Bytes
  mac : Bytes
  deriving DecidableEq

/-- The arguments of one call. -/
structure Request where
  /-- The message to encrypt, or the ciphertext to decrypt. -/
  input : Bytes
  /-- The tag, for detached decryption only. -/
  mac : Option Bytes
  associatedData : AssociatedData
  nonce : Bytes
  key : KeyInput

/-- What an accepted call answers. -/
inductive Output where
  | ciphertext (bytes : Bytes)
  | detached (parts : Detached)
  | plaintext (bytes : Bytes)
  deriving DecidableEq

end Aead
