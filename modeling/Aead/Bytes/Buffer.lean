import Aead.Bytes

/-!
# Buffers of a fixed size

A caller hands a cipher buffers to fill. Their bytes change and their sizes cannot, so the size is
part of the type.
-/

namespace Aead

/-- `n` bytes. -/
structure Buffer (n : Nat) where
  bytes : Bytes
  length_bytes : bytes.length = n
  deriving DecidableEq

namespace Buffer

variable {n k : Nat}

attribute [simp] length_bytes

theorem bytes_inj {a b : Buffer n} : a.bytes = b.bytes ↔ a = b := by
  cases a; cases b; simp

/-- `n` copies of one byte. -/
def filled (n : Nat) (byte : UInt8) : Buffer n :=
  ⟨List.replicate n byte, List.length_replicate⟩

/-- `n` zero bytes. -/
def zeros (n : Nat) : Buffer n :=
  filled n 0

/-- The given bytes, when there are exactly `n` of them. -/
def ofBytes? (n : Nat) (bytes : Bytes) : Option (Buffer n) :=
  if h : bytes.length = n then some ⟨bytes, h⟩ else none

theorem ofBytes?_eq_some_iff {bytes : Bytes} {b : Buffer n} :
    ofBytes? n bytes = some b ↔ b.bytes = bytes := by
  cases b with
  | mk c hc =>
    simp only [ofBytes?, Option.dite_none_right_eq_some, Option.some.injEq, mk.injEq]
    constructor
    · rintro ⟨_, rfl⟩; rfl
    · rintro rfl; exact ⟨hc, rfl⟩

@[simp] theorem ofBytes?_bytes (b : Buffer n) : ofBytes? n b.bytes = some b :=
  ofBytes?_eq_some_iff.2 rfl

theorem isSome_ofBytes? {bytes : Bytes} : (ofBytes? n bytes).isSome ↔ bytes.length = n := by
  simp [ofBytes?]

/-- The `k` bytes from offset `start`. -/
def slice (b : Buffer n) (start k : Nat) (h : start + k ≤ n) : Buffer k :=
  ⟨(b.bytes.drop start).take k, by
    rw [List.length_take, List.length_drop, length_bytes]
    omega⟩

theorem slice_zeros (start : Nat) (h : start + k ≤ n) : (zeros n).slice start k h = zeros k := by
  rw [← bytes_inj]
  simp only [slice, zeros, filled, List.drop_replicate, List.take_replicate]
  congr 1
  omega

/-- One buffer after another. -/
def append (a : Buffer n) (b : Buffer k) : Buffer (n + k) :=
  ⟨a.bytes ++ b.bytes, by rw [List.length_append, length_bytes, length_bytes]⟩

/-- The buffer with its first `k` bytes replaced; the others keep their values. -/
def overwrite (b : Buffer n) (front : Buffer k) (h : k ≤ n) : Buffer n :=
  ⟨front.bytes ++ b.bytes.drop k, by
    rw [List.length_append, List.length_drop, length_bytes, length_bytes]
    omega⟩

theorem bytes_overwrite_all (b front : Buffer n) (h : n ≤ n) :
    (b.overwrite front h).bytes = front.bytes := by
  simp [overwrite]

/-- Words one after another, each with its least significant byte first. -/
def ofWords (words : Vector UInt32 n) : Buffer (4 * n) :=
  ⟨Bytes.ofWords words.toList, by rw [Bytes.length_ofWords, Vector.length_toList]⟩

end Buffer

end Aead
