import Aead.Bytes.Buffer

/-!
# The ChaCha20 permutation

Sixteen 32-bit words hold four constants, the key, and four words that a cipher fills with a block
counter and a nonce. Twenty rounds mix them. A keystream block is the sum of the words before and
after; a derived key is eight of the words after, without the sum.
-/

namespace Aead.ChaCha20

/-- The sixteen words, numbered row by row. -/
abbrev State := Vector UInt32 16

/-- `x` turned left by `n` bits, for `0 < n < 32`. -/
def rotateLeft (x n : UInt32) : UInt32 :=
  (x <<< n) ||| (x >>> (32 - n))

/-- The quarter round on four words. -/
def quarterRound (a b c d : UInt32) : UInt32 × UInt32 × UInt32 × UInt32 :=
  let a := a + b
  let d := rotateLeft (d ^^^ a) 16
  let c := c + d
  let b := rotateLeft (b ^^^ c) 12
  let a := a + b
  let d := rotateLeft (d ^^^ a) 8
  let c := c + d
  let b := rotateLeft (b ^^^ c) 7
  (a, b, c, d)

/-- The quarter round on the words at four places. -/
def quarterRoundAt (s : State) (i j k l : Fin 16) : State :=
  let (a, b, c, d) := quarterRound s[i] s[j] s[k] s[l]
  (((s.set i a).set j b).set k c).set l d

/-- Four quarter rounds down the columns, then four along the diagonals. -/
def doubleRound (s : State) : State :=
  let s := quarterRoundAt s 0 4 8 12
  let s := quarterRoundAt s 1 5 9 13
  let s := quarterRoundAt s 2 6 10 14
  let s := quarterRoundAt s 3 7 11 15
  let s := quarterRoundAt s 0 5 10 15
  let s := quarterRoundAt s 1 6 11 12
  let s := quarterRoundAt s 2 7 8 13
  quarterRoundAt s 3 4 9 14

/-- Twenty rounds. -/
def permute (s : State) : State :=
  Nat.repeat doubleRound 10 s

/-- The words before the rounds: "expand 32-byte k", the key, and the last row. -/
def initial (key : Buffer 32) (lastRow : Vector UInt32 4) : State :=
  let k := key.bytes
  #v[0x61707865, 0x3320646e, 0x79622d32, 0x6b206574,
    k.word32 0, k.word32 1, k.word32 2, k.word32 3,
    k.word32 4, k.word32 5, k.word32 6, k.word32 7,
    lastRow[0], lastRow[1], lastRow[2], lastRow[3]]

/-- The 64 keystream bytes for one last row. -/
def block (key : Buffer 32) (lastRow : Vector UInt32 4) : Buffer 64 :=
  let s := initial key lastRow
  .ofWords (Vector.zipWith (· + ·) s (permute s))

/-- The key derived from a key and the first sixteen bytes of a long nonce: the outer rows after the
rounds. -/
def subkey (key : Buffer 32) (nonce : Bytes) : Buffer 32 :=
  let s := permute (initial key
    #v[nonce.word32 0, nonce.word32 1, nonce.word32 2, nonce.word32 3])
  .ofWords #v[s[0], s[1], s[2], s[3], s[12], s[13], s[14], s[15]]

end Aead.ChaCha20
