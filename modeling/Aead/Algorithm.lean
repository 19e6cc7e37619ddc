import Aead.Error
import Aead.Text.Blank

/-!
# The four algorithms

Each algorithm has a name and a descriptor with the sizes that its callers must keep to. Names are
read leniently: blanks around a name, the case of its ASCII letters, and `-` for `_` do not matter.
-/

namespace Aead

/-- The supported algorithms. -/
inductive Algorithm where
  | aes256Gcm
  | chacha20Poly1305
  | chacha20Poly1305Ietf
  | xchacha20Poly1305Ietf
  deriving DecidableEq, Repr

/-- The sizes of an algorithm, in bytes, and whether its keys can be expanded ahead of use. -/
structure Descriptor where
  tagLength : Nat
  keyLength : Nat
  nonceLength : Nat
  secretNonceLength : Nat
  stateSize : Nat
  supportsPrecompute : Bool
  deriving DecidableEq

namespace Algorithm

/-- All algorithms, in the order in which they are listed. -/
def all : List Algorithm :=
  [aes256Gcm, chacha20Poly1305, chacha20Poly1305Ietf, xchacha20Poly1305Ietf]

/-- There are no other algorithms. -/
theorem mem_all (algorithm : Algorithm) : algorithm ∈ all := by
  cases algorithm <;> decide

/-- The name under which callers know the algorithm. -/
def name : Algorithm → String
  | aes256Gcm => "aes256gcm"
  | chacha20Poly1305 => "chacha20poly1305"
  | chacha20Poly1305Ietf => "chacha20poly1305_ietf"
  | xchacha20Poly1305Ietf => "xchacha20poly1305_ietf"

/-- The name of the algorithm's kind in diagnostic text. -/
def label : Algorithm → String
  | aes256Gcm => "Aes256Gcm"
  | chacha20Poly1305 => "ChaCha20Poly1305"
  | chacha20Poly1305Ietf => "ChaCha20Poly1305Ietf"
  | xchacha20Poly1305Ietf => "XChaCha20Poly1305Ietf"

/-- The size of an expanded AES-256-GCM key in memory, as the cipher's implementation lays it out on
64-bit x86. The sizes of contexts are only compared with each other and shown. -/
def aes256GcmStateSize : Nat := 992

/-- The sizes of each algorithm. -/
def descriptor : Algorithm → Descriptor
  | aes256Gcm => ⟨16, 32, 12, 0, aes256GcmStateSize, true⟩
  | chacha20Poly1305 => ⟨16, 32, 8, 0, 0, false⟩
  | chacha20Poly1305Ietf => ⟨16, 32, 12, 0, 0, false⟩
  | xchacha20Poly1305Ietf => ⟨16, 32, 24, 0, 0, false⟩

/-- Whether the algorithm runs at full speed on a host with or without hardware support; only
AES-256-GCM asks for it. -/
def isAvailable (algorithm : Algorithm) (hardware : Bool) : Bool :=
  match algorithm with
  | aes256Gcm => hardware
  | _ => true

/-! ## Reading names -/

/-- How a character of a name is compared: ASCII letters in lower case, and `-` as `_`. -/
def foldChar (c : Char) : Char :=
  if c = '-' then '_' else c.toLower

/-- The algorithm with the given name. -/
def ofName? (text : String) : Option Algorithm :=
  let folded := (Text.trim text.toList).map foldChar
  all.find? fun a => a.name.toList == folded

/-- The algorithm with the given name; another name is refused as it was given. -/
def ofName (text : String) : Except Error Algorithm :=
  (ofName? text).elim (.error (.unknownAlgorithm text)) .ok

end Algorithm

end Aead
