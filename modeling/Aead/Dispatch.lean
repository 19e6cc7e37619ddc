import Aead.Constraint
import Aead.Primitive
import Aead.Request

/-!
# The dispatcher

Every call checks its lengths and its key before the primitive is called at all. A key is then
expanded, or a context's cipher taken as it is, and exactly one function of the primitive is called
with zeroed buffers of the required sizes. A status other than success never shows a buffer: the
answer is `none`. A combined call that succeeds but claims a wrong length is a failure.
-/

namespace Aead

/-- A key that passed its checks: one still to be expanded, or a cipher at hand. -/
inductive CheckedKey (Cipher : Type) where
  | expand (key : Bytes)
  | ready (cipher : Cipher)

namespace CombinedResult

/-- The whole buffer, if the call succeeded and claims to have filled it. -/
def accept {n : Nat} (result : CombinedResult n) : Except Error (Option Bytes) :=
  if result.status ≠ .success then .ok none
  else if result.written ≠ n then .error (.outputLength n result.written)
  else .ok (some result.out.bytes)

end CombinedResult

namespace SealResult

/-- Both buffers, if the call succeeded. -/
def accept {n k : Nat} (result : SealResult n k) : Option Detached :=
  if result.status = .success then some ⟨result.body.bytes, result.mac.bytes⟩ else none

end SealResult

namespace OpenResult

/-- The buffer, if the call succeeded. -/
def accept {n : Nat} (result : OpenResult n) : Option Bytes :=
  if result.status = .success then some result.message.bytes else none

end OpenResult

namespace Primitive

variable {m : Type → Type} [Monad m] {algorithm : Algorithm} (p : Primitive m algorithm)

/-- The cipher of a context, if the context was made for this algorithm. The algorithm has to have
contexts, and the context the size of one of them. -/
def cipherOf (context : Context) : Except Error p.Cipher :=
  let mismatch := Error.algorithmMismatch algorithm.name context.algorithm.name
  if context.algorithm ≠ algorithm then
    .error mismatch
  else if !algorithm.descriptor.supportsPrecompute then
    .error (.unsupportedAlgorithm algorithm.name)
  else if context.stateLength ≠ algorithm.descriptor.stateSize then
    .error mismatch
  else
    (p.load context).elim (.error mismatch) .ok

/-- Checks the length of a key, or takes the cipher out of a context. One look at a context serves
for its check and for its use, since loading is a function of the context. -/
def checkKey : KeyInput → Except Error (CheckedKey p.Cipher)
  | .raw key => .expand <$> (Constraint.exact algorithm.descriptor.keyLength).check "key" key
  | .context context => .ready <$> p.cipherOf context

/-- Checks the nonce, then the key. -/
def checkNonceAndKey (nonce : Bytes) (key : KeyInput) : Except Error (CheckedKey p.Cipher) := do
  let _ ← (Constraint.exact algorithm.descriptor.nonceLength).check "nonce" nonce
  p.checkKey key

/-- Expands a key. -/
def expandKey (key : Bytes) : ExceptT Error m p.Cipher := do
  match ← ExceptT.lift (p.expand key) with
  | .ok cipher => return cipher
  | .error status => throw (.primitive "key expansion" status)

/-- The cipher of a checked key. -/
def obtain : CheckedKey p.Cipher → ExceptT Error m p.Cipher
  | .expand key => p.expandKey key
  | .ready cipher => return cipher

/-- The context of a key, if the algorithm has contexts. -/
def precompute (key : Bytes) : ExceptT Error m Context := do
  if algorithm.descriptor.supportsPrecompute then
    let key ← (Constraint.exact algorithm.descriptor.keyLength).check "key" key
    let cipher ← p.expandKey key
    match p.store cipher with
    | some context => return context
    | none => throw (.unsupportedAlgorithm algorithm.name)
  else
    throw (.unsupportedAlgorithm algorithm.name)

/-- Encrypts a message to body and tag in one byte string. -/
def encrypt (message : Bytes) (associatedData : AssociatedData) (nonce : Bytes) (key : KeyInput) :
    ExceptT Error m (Option Bytes) := do
  let cipher ← p.obtain (← p.checkNonceAndKey nonce key)
  let out := Buffer.zeros (message.length + algorithm.descriptor.tagLength)
  let result ← ExceptT.lift (p.sealCombined cipher out message associatedData.toOption nonce)
  result.accept

/-- Decrypts a ciphertext that ends with its tag. -/
def decrypt (ciphertext : Bytes) (associatedData : AssociatedData) (nonce : Bytes)
    (key : KeyInput) : ExceptT Error m (Option Bytes) := do
  let ciphertext ← (Constraint.atLeast algorithm.descriptor.tagLength).check "ciphertext" ciphertext
  let cipher ← p.obtain (← p.checkNonceAndKey nonce key)
  let out := Buffer.zeros (ciphertext.length - algorithm.descriptor.tagLength)
  let result ← ExceptT.lift (p.openCombined cipher out ciphertext associatedData.toOption nonce)
  result.accept

/-- Encrypts a message to a body and a tag. -/
def encryptDetached (message : Bytes) (associatedData : AssociatedData) (nonce : Bytes)
    (key : KeyInput) : ExceptT Error m (Option Detached) := do
  let cipher ← p.obtain (← p.checkNonceAndKey nonce key)
  let body := Buffer.zeros message.length
  let mac := Buffer.zeros algorithm.descriptor.tagLength
  let result ← ExceptT.lift (p.sealDetached cipher body mac message associatedData.toOption nonce)
  return result.accept

/-- Decrypts a body with its tag. -/
def decryptDetached (body mac : Bytes) (associatedData : AssociatedData) (nonce : Bytes)
    (key : KeyInput) : ExceptT Error m (Option Bytes) := do
  let mac ← (Constraint.exact algorithm.descriptor.tagLength).check "mac" mac
  let cipher ← p.obtain (← p.checkNonceAndKey nonce key)
  let message := Buffer.zeros body.length
  let result ← ExceptT.lift (p.openDetached cipher message body mac associatedData.toOption nonce)
  return result.accept

/-- The call of a direction and a mode. -/
def run (direction : Direction) (mode : Mode) (request : Request) :
    ExceptT Error m (Option Output) :=
  let { input, mac, associatedData, nonce, key } := request
  match direction, mode with
  | .encrypt, .combined => Option.map .ciphertext <$> p.encrypt input associatedData nonce key
  | .decrypt, .combined => Option.map .plaintext <$> p.decrypt input associatedData nonce key
  | .encrypt, .detached => Option.map .detached <$> p.encryptDetached input associatedData nonce key
  | .decrypt, .detached =>
    match mac with
    | none => throw (.typeMismatch "mac")
    | some mac => Option.map .plaintext <$> p.decryptDetached input mac associatedData nonce key

end Primitive

/-- The answer of a call without effects. -/
def answer {α : Type} (call : ExceptT Error Id α) : Except Error α :=
  Id.run call.run

end Aead
