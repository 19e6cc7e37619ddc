/-!
# Operations

An operation has a direction, a mode and a kind of key. All eight combinations exist.
-/

namespace Aead

/-- Whether a message is sealed or opened. -/
inductive Direction where
  | encrypt
  | decrypt
  deriving DecidableEq, Repr

/-- Whether the tag stands at the end of the ciphertext or by itself. -/
inductive Mode where
  | combined
  | detached
  deriving DecidableEq, Repr

/-- Whether a call brings a key or a context. -/
inductive KeyStrategy where
  | rawKey
  | precomputed
  deriving DecidableEq, Repr

/-- One of the eight operations. -/
structure Operation where
  direction : Direction
  mode : Mode
  key : KeyStrategy
  deriving DecidableEq, Repr

namespace Direction

/-- The name in diagnostic text. -/
def label : Direction → String
  | encrypt => "Encrypt"
  | decrypt => "Decrypt"

/-- What the direction calls its input. -/
def inputName : Direction → String
  | encrypt => "message"
  | decrypt => "ciphertext"

end Direction

namespace Mode

/-- The name in diagnostic text. -/
def label : Mode → String
  | combined => "Combined"
  | detached => "Detached"

end Mode

namespace KeyStrategy

/-- The name in diagnostic text. -/
def label : KeyStrategy → String
  | rawKey => "RawKey"
  | precomputed => "Precomputed"

/-- What calls name the key or the context. -/
def argumentName : KeyStrategy → String
  | rawKey => "key"
  | precomputed => "context"

end KeyStrategy

namespace Operation

/-- All operations: those with a key first, combined before detached, encryption before
decryption. -/
def all : List Operation :=
  [.rawKey, .precomputed].flatMap fun key =>
    [.combined, .detached].flatMap fun mode =>
      [.encrypt, .decrypt].map fun direction => ⟨direction, mode, key⟩

/-- The end of the names under which the operation is offered. -/
def suffix (op : Operation) : String :=
  (match op.direction with
    | .encrypt => "encrypt"
    | .decrypt => "decrypt") ++
  (match op.mode with
    | .combined => ""
    | .detached => "_detached") ++
  (match op.key with
    | .rawKey => ""
    | .precomputed => "_afternm")

/-- There are no other operations. -/
theorem mem_all (op : Operation) : op ∈ all := by
  obtain ⟨direction, mode, key⟩ := op
  cases direction <;> cases mode <;> cases key <;> decide

/-- The eight ends, in the order of the operations. -/
theorem map_suffix_all :
    all.map suffix =
      ["encrypt", "decrypt", "encrypt_detached", "decrypt_detached", "encrypt_afternm",
        "decrypt_afternm", "encrypt_detached_afternm", "decrypt_detached_afternm"] := by
  decide

/-- Detached decryption takes the tag as an argument of its own. -/
def takesMac (op : Operation) : Bool :=
  op.direction = .decrypt && op.mode = .detached

/-- The names of the arguments, in order. -/
def argumentNames (op : Operation) : List String :=
  [op.direction.inputName] ++ (if op.takesMac then ["mac"] else []) ++
    ["associated_data", "nonce", op.key.argumentName]

/-- The number of arguments. -/
def arity (op : Operation) : Nat :=
  op.argumentNames.length

/-- The diagnostic text. -/
def inspect (op : Operation) : String :=
  "Operation \x7b direction: " ++ op.direction.label ++ ", mode: " ++ op.mode.label ++
    ", key: " ++ op.key.label ++ " \x7d"

end Operation

end Aead
