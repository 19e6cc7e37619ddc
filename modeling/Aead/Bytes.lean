/-!
# Byte strings

A byte string is a list of bytes. This module holds what every cipher here does with them: exclusive
or, whole numbers written in a fixed number of bytes, and cutting into blocks.

Results:

* `xor_xor_right`: combining twice with the same bytes gives back the first argument.
* `length_le`, `leValue_le`: `le k n` has `k` bytes and determines every `n` that fits.
* `le_leValue`: a byte string is its value, written in as many bytes.
-/

namespace Aead

/-- A byte string. -/
abbrev Bytes := List UInt8

namespace Bytes

/-! ## Exclusive or -/

/-- The exclusive or of two byte strings, as long as the shorter of them. -/
def xor (a b : Bytes) : Bytes :=
  List.zipWith (· ^^^ ·) a b

@[simp] theorem length_xor (a b : Bytes) : (xor a b).length = min a.length b.length := by
  simp [xor]

theorem getElem_xor {a b : Bytes} {i : Nat} (ha : i < a.length) (hb : i < b.length) :
    (xor a b)[i]? = some (a[i] ^^^ b[i]) := by
  simp [xor, List.getElem?_zipWith, List.getElem?_eq_getElem ha, List.getElem?_eq_getElem hb]

/-- Combining twice with the same bytes gives back the first argument, when the second covers it. -/
theorem xor_xor_right (a b : Bytes) (h : a.length ≤ b.length) : xor (xor a b) b = a := by
  induction a generalizing b with
  | nil => rfl
  | cons x a ih =>
    cases b with
    | nil => simp at h
    | cons y b =>
      simp only [xor, List.zipWith_cons_cons] at ih ⊢
      rw [ih b (by simpa using h), UInt8.xor_assoc, UInt8.xor_self, UInt8.xor_zero]

/-! ## Whole numbers in bytes -/

/-- The `k` low bytes of `n`, least significant first. -/
def le : (k n : Nat) → Bytes
  | 0, _ => []
  | k + 1, n => n.toUInt8 :: le k (n / 256)

/-- The `k` low bytes of `n`, most significant first. -/
def be (k n : Nat) : Bytes :=
  (le k n).reverse

/-- The number whose bytes, least significant first, are given. -/
def leValue : Bytes → Nat
  | [] => 0
  | b :: rest => b.toNat + 256 * leValue rest

/-- The number whose bytes, most significant first, are given. -/
def beValue (bytes : Bytes) : Nat :=
  leValue bytes.reverse

@[simp] theorem length_le (k n : Nat) : (le k n).length = k := by
  induction k generalizing n with
  | zero => rfl
  | succ k ih => simp [le, ih]

@[simp] theorem length_be (k n : Nat) : (be k n).length = k := by
  simp [be]

/-- The numbers below this one fit into `k` bytes. -/
def limit (k : Nat) : Nat :=
  Nat.pow 256 k

theorem limit_succ (k : Nat) : limit (k + 1) = 256 * limit k :=
  Nat.pow_succ'

theorem leValue_le (k n : Nat) : leValue (le k n) = n % limit k := by
  induction k generalizing n with
  | zero =>
    show 0 = n % 1
    rw [Nat.mod_one]
  | succ k ih =>
    have byte : n.toUInt8.toNat = n % 256 := UInt8.toNat_ofNat'
    rw [le, leValue, ih, byte, limit_succ, Nat.mod_mul]

theorem leValue_lt (bytes : Bytes) : leValue bytes < limit bytes.length := by
  induction bytes with
  | nil => exact Nat.one_pos
  | cons b rest ih =>
    have byte : b.toNat < 256 := b.toNat_lt
    rw [leValue, List.length_cons, limit_succ]
    omega

/-- A byte string is its value, written in as many bytes. -/
theorem le_leValue (bytes : Bytes) : le bytes.length (leValue bytes) = bytes := by
  induction bytes with
  | nil => rfl
  | cons b rest ih =>
    have byte : b.toNat < 256 := b.toNat_lt
    have first : (b.toNat + 256 * leValue rest).toUInt8 = b := by
      apply UInt8.toNat_inj.1
      show (UInt8.ofNat _).toNat = b.toNat
      rw [UInt8.toNat_ofNat']
      omega
    have others : (b.toNat + 256 * leValue rest) / 256 = leValue rest := by omega
    rw [List.length_cons, leValue, le, first, others, ih]

/-- What does not fit into `k` bytes is left out. -/
theorem le_mod (k n : Nat) : le k (n % limit k) = le k n := by
  have written := le_leValue (le k n)
  rwa [length_le, leValue_le] at written

/-- Words one after another, each with its least significant byte first. -/
def ofWords (words : List UInt32) : Bytes :=
  words.flatMap fun w => le 4 w.toNat

@[simp] theorem length_ofWords (words : List UInt32) :
    (ofWords words).length = 4 * words.length := by
  induction words with
  | nil => rfl
  | cons w words ih =>
    rw [ofWords, List.flatMap_cons, List.length_append, length_le, ← ofWords, ih, List.length_cons]
    omega

/-- The 32-bit word that starts at byte `4 * i`, least significant byte first; missing bytes are
zero. -/
def word32 (bytes : Bytes) (i : Nat) : UInt32 :=
  (leValue ((bytes.drop (4 * i)).take 4)).toUInt32

/-! ## Blocks -/

/-- The pieces of `n + 1` bytes, in order; the last may be shorter, and none is empty. -/
def blocks (n : Nat) (bytes : Bytes) : List Bytes :=
  match bytes with
  | [] => []
  | b :: rest => (b :: rest.take n) :: blocks n (rest.drop n)
termination_by bytes.length
decreasing_by
  simp only [List.length_drop, List.length_cons]
  omega

/-- Zero bytes that complete the last 16-byte block. -/
def padding16 (bytes : Bytes) : Bytes :=
  List.replicate ((16 - bytes.length % 16) % 16) 0

end Bytes

end Aead
