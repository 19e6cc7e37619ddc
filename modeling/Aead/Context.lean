import Aead.Algorithm
import Aead.Cipher.Aes256

/-!
# Expanded keys

A context keeps a key in expanded form, so that later calls skip the expansion. It remembers its
algorithm; no other algorithm accepts it.
-/

namespace Aead

/-- A key in expanded form. -/
inductive Context where
  | aes256Gcm (keys : Aes256.RoundKeys)
  deriving DecidableEq

namespace Context

/-- The algorithm that the key was expanded for. -/
def algorithm : Context → Algorithm
  | aes256Gcm _ => .aes256Gcm

/-- The size that the algorithm reserves for a context, in bytes. -/
def stateLength (c : Context) : Nat :=
  c.algorithm.descriptor.stateSize

/-- An algorithm of which there is a context has contexts. -/
theorem supportsPrecompute_algorithm (c : Context) :
    c.algorithm.descriptor.supportsPrecompute = true := by
  cases c
  rfl

/-- The diagnostic text; of the key it shows nothing. -/
def inspect (c : Context) : String :=
  "PrecomputedContext \x7b algorithm: " ++ c.algorithm.label ++
    ", state: <" ++ toString c.stateLength ++ " bytes> \x7d"

end Context

end Aead
