/-!
# Numbers of a host

A host's numbers are 64-bit floating-point numbers, kept by their bits: a sign, eleven exponent bits
and 52 fraction bits. They are written with the fewest digits that read back to the same number, and
never with an exponent.
-/

namespace Aead.Host

/-- A 64-bit floating-point number. -/
structure Number where
  bits : UInt64
  deriving DecidableEq

namespace Number

/-- The sign bit is set. -/
def isNegative (x : Number) : Bool :=
  x.bits.toNat / Nat.pow 2 63 = 1

/-- The eleven exponent bits. -/
def exponentBits (x : Number) : Nat :=
  x.bits.toNat / Nat.pow 2 52 % Nat.pow 2 11

/-- The 52 fraction bits. -/
def fractionBits (x : Number) : Nat :=
  x.bits.toNat % Nat.pow 2 52

/-- The number nearest to `n`, the even one of two; `n` is below `2 ^ 1023`. -/
def ofNat (n : Nat) : Number :=
  let e := n.log2
  if n = 0 then ⟨0⟩
  else if e ≤ 52 then ⟨((e + 1022) * Nat.pow 2 52 + n * Nat.pow 2 (52 - e)).toUInt64⟩
  else
    let unit := Nat.pow 2 (e - 52)
    let low := n / unit
    let rest := n % unit
    let up := unit < 2 * rest || (2 * rest = unit && low % 2 = 1)
    ⟨((e + 1022) * Nat.pow 2 52 + (if up then low + 1 else low)).toUInt64⟩

/-! ## Shortest digits -/

/-- The magnitude `significand * 2 ^ exponent` of a finite number. -/
structure Magnitude where
  significand : Nat
  exponent : Int

/-- The magnitude of a finite number: below the least exponent the leading bit is not implied. -/
def magnitude (x : Number) : Magnitude :=
  if x.exponentBits = 0 then ⟨x.fractionBits, -1074⟩
  else ⟨Nat.pow 2 52 + x.fractionBits, x.exponentBits - 1075⟩

/-- The gap below a magnitude is half of the gap above: it is a power of two, and not of the least
exponent. -/
def Magnitude.hasNarrowGap (v : Magnitude) : Bool :=
  v.significand = Nat.pow 2 52 && v.exponent ≠ -1074

/-- The nearest multiple of `10 ^ k` that reads back to the magnitude, if one of its two neighbours
among the multiples does; of two equally near ones the larger. -/
def Magnitude.nearestMultiple? (v : Magnitude) (k : Int) : Option Nat :=
  -- In units of a quarter of the gap above, what reads back lies between `low` and `high`.
  let centre := 4 * v.significand
  let low := if v.hasNarrowGap then centre - 1 else centre - 2
  let high := centre + 2
  let quarter := v.exponent - 2
  let step := Nat.pow 10 k.toNat * Nat.pow 2 (-quarter).toNat
  let scale := Nat.pow 2 quarter.toNat * Nat.pow 10 (-k).toNat
  let closed := v.significand % 2 = 0
  let d := centre * scale / step
  let rest := centre * scale % step
  let lowHits := if closed then low * scale ≤ d * step else low * scale < d * step
  let highHits := if closed then (d + 1) * step ≤ high * scale else (d + 1) * step < high * scale
  if lowHits && highHits then some (if 2 * rest < step then d else d + 1)
  else if lowHits then some d
  else if highHits then some (d + 1)
  else none

/-- The shortest decimal that reads back: digits and the power of ten that they count. -/
def Magnitude.shortest (v : Magnitude) : Nat × Int :=
  let powers := (List.range 660).map fun i => (310 : Int) - (i : Nat)
  (powers.findSome? fun k => (v.nearestMultiple? k).map (·, k)).getD (0, 0)

/-- The decimal `digits * 10 ^ k` without an exponent. -/
def positional (digits : Nat) (k : Int) : String :=
  let ds := Nat.toDigits 10 digits
  let places := (-k).toNat
  if 0 ≤ k then String.ofList (ds ++ List.replicate k.toNat '0')
  else if places < ds.length then
    String.ofList (ds.take (ds.length - places) ++ '.' :: ds.drop (ds.length - places))
  else String.ofList ('0' :: '.' :: List.replicate (places - ds.length) '0' ++ ds)

/-- The text of a number. -/
def text (x : Number) : String :=
  let sign := if x.isNegative then "-" else ""
  if x.exponentBits = 2047 then
    if x.fractionBits = 0 then sign ++ "inf" else "NaN"
  else if x.magnitude.significand = 0 then sign ++ "0"
  else
    let (digits, k) := x.magnitude.shortest
    sign ++ positional digits k

end Number

end Aead.Host
