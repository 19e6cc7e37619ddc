import Aead.Bytes.Buffer

/-!
# The Poly1305 authenticator

A one-time key holds a multiplier and a mask. Each 16-byte block of the message, with a 1 written
above its last byte, is a coefficient of a polynomial that is evaluated at the multiplier modulo
`2 ^ 130 - 5`; the mask is added to the value modulo `2 ^ 128`.
-/

namespace Aead.Poly1305

/-- The modulus of the polynomial. -/
def modulus : Nat := Nat.pow 2 130 - 5

/-- The bits that a multiplier may have. -/
def multiplierMask : Nat := 0x0ffffffc0ffffffc0ffffffc0fffffff

/-- The coefficient of one block: its little-endian value with a 1 above the last byte. -/
def coefficient (block : Bytes) : Nat :=
  block.leValue + Bytes.limit block.length

/-- The polynomial of the message's blocks at `r`, by Horner's rule. -/
def evaluate (r : Nat) (message : Bytes) : Nat :=
  (message.blocks 15).foldl (fun sum block => (sum + coefficient block) * r % modulus) 0

/-- The tag of a message under a one-time key. -/
def tag (key : Buffer 32) (message : Bytes) : Buffer 16 :=
  let r := (key.slice 0 16 (by decide)).bytes.leValue &&& multiplierMask
  let mask := (key.slice 16 16 (by decide)).bytes.leValue
  ⟨Bytes.le 16 (evaluate r message + mask), Bytes.length_le _ _⟩

end Aead.Poly1305
