import Aead.Bytes.Buffer
import Aead.Context
import Aead.Error

/-!
# Primitives

A primitive is one algorithm as the dispatcher sees it. Its functions take buffers to fill, answer
with a status, and leave the buffers in some state; nothing is assumed about that state, nor about
the effects `m` of a call. Contexts are outside of these calls: storing an expanded key and loading
it back have no effects and depend on nothing but what is stored or loaded, so a context that loads
when it is checked loads the same key when it is used. An algorithm has to provide the detached
functions alone: the combined ones split the output or the input into body and tag and call those.
-/

namespace Aead

namespace Status

/-- The status of a call that did its work. -/
def success : Status := 0

/-- The status of a call that refused. -/
def failure : Status := -1

end Status

/-- What a call to seal leaves behind. -/
structure SealResult (bodyLength macLength : Nat) where
  status : Status
  body : Buffer bodyLength
  mac : Buffer macLength

/-- What a call to open leaves behind. -/
structure OpenResult (length : Nat) where
  status : Status
  message : Buffer length

/-- What a combined call leaves behind, with the number of bytes that it claims to have written. -/
structure CombinedResult (length : Nat) where
  status : Status
  out : Buffer length
  written : Nat

/-- The functions that every algorithm has to provide. -/
structure DetachedPrimitive (m : Type → Type) (algorithm : Algorithm) where
  /-- Keys in expanded form. -/
  Cipher : Type
  expand : (key : Bytes) → m (Except Status Cipher)
  sealDetached : {n k : Nat} → (cipher : Cipher) → (body : Buffer n) → (mac : Buffer k) →
    (message : Bytes) → (associatedData : Option Bytes) → (nonce : Bytes) → m (SealResult n k)
  openDetached : {n : Nat} → (cipher : Cipher) → (message : Buffer n) → (body mac : Bytes) →
    (associatedData : Option Bytes) → (nonce : Bytes) → m (OpenResult n)
  /-- The context of an expanded key, if the algorithm has contexts; a function of the key. -/
  store : Cipher → Option Context := fun _ => none
  /-- The expanded key of a context, if the context is one of the algorithm's; a function of the
  context. -/
  load : Context → Option Cipher := fun _ => none

/-- One algorithm as the dispatcher sees it. -/
structure Primitive (m : Type → Type) (algorithm : Algorithm) extends
    DetachedPrimitive m algorithm where
  sealCombined : {n : Nat} → (cipher : Cipher) → (out : Buffer n) → (message : Bytes) →
    (associatedData : Option Bytes) → (nonce : Bytes) → m (CombinedResult n)
  openCombined : {n : Nat} → (cipher : Cipher) → (out : Buffer n) → (ciphertext : Bytes) →
    (associatedData : Option Bytes) → (nonce : Bytes) → m (CombinedResult n)

namespace DetachedPrimitive

variable {m : Type → Type} [Monad m] {algorithm : Algorithm}

/-- Seals into the front of `out`, the tag after the body. -/
def sealCombined (p : DetachedPrimitive m algorithm) {n : Nat} (cipher : p.Cipher) (out : Buffer n)
    (message : Bytes) (associatedData : Option Bytes) (nonce : Bytes) : m (CombinedResult n) :=
  let tagLength := algorithm.descriptor.tagLength
  let total := message.length + tagLength
  if h : total ≤ n then do
    let body := out.slice 0 message.length (by omega)
    let mac := out.slice message.length tagLength h
    let result ← p.sealDetached cipher body mac message associatedData nonce
    return {
      status := result.status
      out := out.overwrite (result.body.append result.mac) h
      written := if result.status = .success then total else 0 }
  else
    return { status := .failure, out, written := 0 }

/-- Opens into the front of `out`, taking the tag from the end of the ciphertext. -/
def openCombined (p : DetachedPrimitive m algorithm) {n : Nat} (cipher : p.Cipher) (out : Buffer n)
    (ciphertext : Bytes) (associatedData : Option Bytes) (nonce : Bytes) : m (CombinedResult n) :=
  let tagLength := algorithm.descriptor.tagLength
  let length := ciphertext.length - tagLength
  if h : tagLength ≤ ciphertext.length ∧ length ≤ n then do
    let message := out.slice 0 length (by omega)
    let result ← p.openDetached cipher message (ciphertext.take length) (ciphertext.drop length)
      associatedData nonce
    return {
      status := result.status
      out := out.overwrite result.message h.2
      written := if result.status = .success then length else 0 }
  else
    return { status := .failure, out, written := 0 }

/-- The primitive whose combined functions call the detached ones. -/
def toPrimitive (p : DetachedPrimitive m algorithm) : Primitive m algorithm where
  toDetachedPrimitive := p
  sealCombined := p.sealCombined
  openCombined := p.openCombined

end DetachedPrimitive

/-- A primitive for every algorithm. -/
abbrev Provider (m : Type → Type) : Type 1 :=
  (algorithm : Algorithm) → Primitive m algorithm

end Aead
