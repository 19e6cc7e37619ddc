import Aead.Dispatch
import Aead.Primitive.Standard

/-!
# The operations of the four algorithms

Two ways to call an algorithm. `dispatch` takes the operation as data, with `sealMessage` and
`openSealed` for the most common requests. The functions of `Family` are the eight operations by
name, with a key or with a context, and the expansion of a key into a context.
-/

namespace Aead

/-! ## The operation as data -/

/-- The call of a direction and a mode on one of the four algorithms. -/
def dispatch (algorithm : Algorithm) (direction : Direction) (mode : Mode) (request : Request) :
    Except Error (Option Output) :=
  answer ((Provider.standard algorithm).run direction mode request)

/-- Combined encryption under a key. -/
def sealMessage (algorithm : Algorithm) (message : Bytes) (associatedData : AssociatedData)
    (nonce key : Bytes) : Except Error (Option Bytes) := do
  match ← dispatch algorithm .encrypt .combined
      ⟨message, none, associatedData, nonce, .raw key⟩ with
  | some (.ciphertext bytes) => return some bytes
  | _ => return none

/-- Combined decryption under a key. -/
def openSealed (algorithm : Algorithm) (ciphertext : Bytes) (associatedData : AssociatedData)
    (nonce key : Bytes) : Except Error (Option Bytes) := do
  match ← dispatch algorithm .decrypt .combined
      ⟨ciphertext, none, associatedData, nonce, .raw key⟩ with
  | some (.plaintext bytes) => return some bytes
  | _ => return none

namespace Family

/-! ## The operations by name -/

variable (algorithm : Algorithm)

/-- The context of a key, if the algorithm has contexts. -/
def precompute (key : Bytes) : Except Error Context :=
  answer ((Provider.standard algorithm).precompute key)

/-! ## With a key -/

/-- Body and tag of a message in one byte string. -/
def encrypt (message : Bytes) (associatedData : AssociatedData) (nonce key : Bytes) :
    Except Error (Option Bytes) :=
  answer ((Provider.standard algorithm).encrypt message associatedData nonce (.raw key))

/-- The message of a ciphertext that ends with its tag; none if the tag is wrong. -/
def decrypt (ciphertext : Bytes) (associatedData : AssociatedData) (nonce key : Bytes) :
    Except Error (Option Bytes) :=
  answer ((Provider.standard algorithm).decrypt ciphertext associatedData nonce (.raw key))

/-- Body and tag of a message, apart. -/
def encryptDetached (message : Bytes) (associatedData : AssociatedData) (nonce key : Bytes) :
    Except Error (Option Detached) :=
  answer ((Provider.standard algorithm).encryptDetached message associatedData nonce (.raw key))

/-- The message of a body; none if the tag is wrong. -/
def decryptDetached (body mac : Bytes) (associatedData : AssociatedData) (nonce key : Bytes) :
    Except Error (Option Bytes) :=
  answer ((Provider.standard algorithm).decryptDetached body mac associatedData nonce (.raw key))

/-! ## With a context -/

/-- `encrypt` under the key of a context. -/
def encryptWith (message : Bytes) (associatedData : AssociatedData) (nonce : Bytes)
    (context : Context) : Except Error (Option Bytes) :=
  answer ((Provider.standard algorithm).encrypt message associatedData nonce (.context context))

/-- `decrypt` under the key of a context. -/
def decryptWith (ciphertext : Bytes) (associatedData : AssociatedData) (nonce : Bytes)
    (context : Context) : Except Error (Option Bytes) :=
  answer ((Provider.standard algorithm).decrypt ciphertext associatedData nonce (.context context))

/-- `encryptDetached` under the key of a context. -/
def encryptDetachedWith (message : Bytes) (associatedData : AssociatedData) (nonce : Bytes)
    (context : Context) : Except Error (Option Detached) :=
  answer
    ((Provider.standard algorithm).encryptDetached message associatedData nonce (.context context))

/-- `decryptDetached` under the key of a context. -/
def decryptDetachedWith (body mac : Bytes) (associatedData : AssociatedData) (nonce : Bytes)
    (context : Context) : Except Error (Option Bytes) :=
  answer
    ((Provider.standard algorithm).decryptDetached body mac associatedData nonce (.context context))

end Family

end Aead
