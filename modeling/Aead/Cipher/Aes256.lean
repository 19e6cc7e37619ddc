import Aead.Bytes.Buffer

/-!
# The AES block cipher with a 256-bit key

A block is four columns of four bytes. The byte substitution is inversion in the field of 256
elements followed by an affine map; it is computed once for every byte and kept in a table.
-/

namespace Aead.Aes256

/-! ## The field of 256 elements -/

/-- Multiplication by `x` modulo `x ^ 8 + x ^ 4 + x ^ 3 + x + 1`. -/
def double (a : UInt8) : UInt8 :=
  if a < 0x80 then a <<< 1 else (a <<< 1) ^^^ 0x1b

/-- Multiplication by `x + 1`. -/
def triple (a : UInt8) : UInt8 :=
  double a ^^^ a

/-- The product: `b`'s bits from the highest select multiples of `a`. -/
def mul (a b : UInt8) : UInt8 :=
  [7, 6, 5, 4, 3, 2, 1, 0].foldl
    (fun p i => if (b >>> i) &&& 1 = 1 then double p ^^^ a else double p) 0

/-- The inverse, and zero for zero: the 254th power. -/
def inverse (a : UInt8) : UInt8 :=
  Nat.repeat (fun p => mul (mul p p) a) 6 a |> fun p => mul p p

/-- The substitution of one byte. -/
def substitution (a : UInt8) : UInt8 :=
  let b := inverse a
  let turn (n : UInt8) := (b <<< n) ||| (b >>> (8 - n))
  b ^^^ turn 1 ^^^ turn 2 ^^^ turn 3 ^^^ turn 4 ^^^ 0x63

/-- `substitution` of every byte, in order. -/
def substitutionTable : Vector UInt8 256 :=
  Vector.ofFn fun i => substitution i.val.toUInt8

/-- The substitution of one byte, from the table. -/
def substitute (a : UInt8) : UInt8 :=
  substitutionTable.get ⟨a.toNat, a.toNat_lt⟩

/-! ## Columns and blocks -/

/-- Four bytes, from the first row to the last. -/
structure Column where
  r0 : UInt8
  r1 : UInt8
  r2 : UInt8
  r3 : UInt8
  deriving DecidableEq

namespace Column

/-- The four bytes from offset `start`; missing bytes are zero. -/
def ofBytes (bytes : Bytes) (start : Nat) : Column :=
  ⟨bytes.getD start 0, bytes.getD (start + 1) 0, bytes.getD (start + 2) 0, bytes.getD (start + 3) 0⟩

/-- The four bytes, from the first row to the last. -/
def toBytes (c : Column) : Bytes :=
  [c.r0, c.r1, c.r2, c.r3]

/-- The exclusive or, byte by byte. -/
def xor (a b : Column) : Column :=
  ⟨a.r0 ^^^ b.r0, a.r1 ^^^ b.r1, a.r2 ^^^ b.r2, a.r3 ^^^ b.r3⟩

/-- Every byte substituted. -/
def substitute (c : Column) : Column :=
  ⟨Aes256.substitute c.r0, Aes256.substitute c.r1, Aes256.substitute c.r2, Aes256.substitute c.r3⟩

/-- Each byte moved up one row, the first to the end. -/
def rotate (c : Column) : Column :=
  ⟨c.r1, c.r2, c.r3, c.r0⟩

/-- The column times the circulant matrix of `2, 3, 1, 1`. -/
def mix (c : Column) : Column :=
  ⟨double c.r0 ^^^ triple c.r1 ^^^ c.r2 ^^^ c.r3,
    c.r0 ^^^ double c.r1 ^^^ triple c.r2 ^^^ c.r3,
    c.r0 ^^^ c.r1 ^^^ double c.r2 ^^^ triple c.r3,
    triple c.r0 ^^^ c.r1 ^^^ c.r2 ^^^ double c.r3⟩

end Column

/-- Sixteen bytes as four columns. -/
structure Block where
  c0 : Column
  c1 : Column
  c2 : Column
  c3 : Column
  deriving DecidableEq

namespace Block

/-- The sixteen bytes from offset `start`; missing bytes are zero. -/
def ofBytes (bytes : Bytes) (start : Nat) : Block :=
  ⟨.ofBytes bytes start, .ofBytes bytes (start + 4), .ofBytes bytes (start + 8),
    .ofBytes bytes (start + 12)⟩

/-- The sixteen bytes, column by column. -/
def toBuffer (b : Block) : Buffer 16 :=
  ⟨b.c0.toBytes ++ b.c1.toBytes ++ b.c2.toBytes ++ b.c3.toBytes, rfl⟩

/-- The exclusive or, column by column. -/
def xor (a b : Block) : Block :=
  ⟨a.c0.xor b.c0, a.c1.xor b.c1, a.c2.xor b.c2, a.c3.xor b.c3⟩

/-- Every byte substituted. -/
def substitute (b : Block) : Block :=
  ⟨b.c0.substitute, b.c1.substitute, b.c2.substitute, b.c3.substitute⟩

/-- Row `i` turned left by `i` columns. -/
def shiftRows (b : Block) : Block :=
  ⟨⟨b.c0.r0, b.c1.r1, b.c2.r2, b.c3.r3⟩, ⟨b.c1.r0, b.c2.r1, b.c3.r2, b.c0.r3⟩,
    ⟨b.c2.r0, b.c3.r1, b.c0.r2, b.c1.r3⟩, ⟨b.c3.r0, b.c0.r1, b.c1.r2, b.c2.r3⟩⟩

/-- Every column mixed. -/
def mixColumns (b : Block) : Block :=
  ⟨b.c0.mix, b.c1.mix, b.c2.mix, b.c3.mix⟩

end Block

/-! ## The key schedule -/

/-- The fifteen round keys: one before the first round, thirteen of full rounds, one of the last. -/
structure RoundKeys where
  first : Block
  middle : List Block
  last : Block
  deriving DecidableEq

/-- The block that follows `previous` in the schedule, its columns built from `seed` on. -/
def nextKey (previous : Block) (seed : Column) : Block :=
  let c0 := previous.c0.xor seed
  let c1 := previous.c1.xor c0
  let c2 := previous.c2.xor c1
  ⟨c0, c1, c2, previous.c3.xor c2⟩

/-- The round keys from `low` and `high` on, a pair for each round constant; the last pair stays
open. -/
def schedule (first low high : Block) (middle : List Block) : List UInt8 → RoundKeys
  | [] => ⟨first, middle, nextKey low (high.c3.rotate.substitute.xor ⟨0x40, 0, 0, 0⟩)⟩
  | constant :: rest =>
    let low' := nextKey low (high.c3.rotate.substitute.xor ⟨constant, 0, 0, 0⟩)
    let high' := nextKey high low'.c3.substitute
    schedule first low' high' (middle ++ [low', high']) rest

/-- The round keys of a key. -/
def expandKey (key : Buffer 32) : RoundKeys :=
  let low := Block.ofBytes key.bytes 0
  let high := Block.ofBytes key.bytes 16
  schedule low low high [high] [0x01, 0x02, 0x04, 0x08, 0x10, 0x20]

/-! ## Encryption of a block -/

/-- The block under the given round keys. -/
def encryptBlock (keys : RoundKeys) (block : Block) : Block :=
  let whitened := block.xor keys.first
  let mixed := keys.middle.foldl (fun b k => b.substitute.shiftRows.mixColumns.xor k) whitened
  mixed.substitute.shiftRows.xor keys.last

/-- The sixteen bytes that `bytes` encrypt to; missing bytes are zero. -/
def encrypt (keys : RoundKeys) (bytes : Bytes) : Buffer 16 :=
  (encryptBlock keys (.ofBytes bytes 0)).toBuffer

end Aead.Aes256
