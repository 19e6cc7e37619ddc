import Aead.Bytes.Buffer

/-!
# The GHASH function

Blocks of 128 bits are polynomials over two elements, the first bit being the constant term, modulo
`x ^ 128 + x ^ 7 + x ^ 2 + x + 1`. A message of whole blocks is hashed by Horner's rule at the
hash key.
-/

namespace Aead.Ghash

/-- A polynomial of degree below 128. The most significant bit is the constant term. -/
abbrev Element := BitVec 128

/-- The element written in sixteen bytes, most significant first. -/
def ofBytes (bytes : Bytes) : Element :=
  BitVec.ofNat 128 bytes.beValue

/-- The sixteen bytes of an element, most significant first. -/
def toBuffer (a : Element) : Buffer 16 :=
  ⟨Bytes.be 16 a.toNat, Bytes.length_be _ _⟩

/-- Multiplication by `x`. -/
def shift (a : Element) : Element :=
  if a.getLsbD 0 then (a >>> 1) ^^^ 0xe1000000000000000000000000000000#128 else a >>> 1

/-- The product, by adding the multiples of `b` by powers of `x` that `a` selects. -/
def mul (a b : Element) : Element :=
  ((List.range 128).foldl
    (fun (sum, power) i => (if a.getMsbD i then sum ^^^ power else sum, shift power)) (0, b)).1

/-- The hash of a message of whole blocks under the key `h`. -/
def hash (h : Element) (message : Bytes) : Element :=
  (message.blocks 15).foldl (fun sum block => mul (sum ^^^ ofBytes block) h) 0

end Aead.Ghash
