import Mathlib
import Aead.Host.Number

/-!
# Whole numbers of a host

A host has no whole numbers of its own: a size reaches it as a floating-point number. Below `2 ^ 53`
nothing is lost on the way. There is one number without a sign for each size, and it is the one that
the conversion gives.

Results:

* `Host.Number.ext_fields`: a number is determined by its sign, exponent bits and fraction bits.
* `Host.Number.Magnitude.IsCanonical.eq_of_value_eq`: canonical magnitudes of one value are equal.
* `Host.Number.isNat_ofNat`: the conversion is exact below `2 ^ 53`.
* `Host.Number.isNat_iff`: no other number without a sign has that value.
-/

namespace Aead.Host.Number

/-! ## The value of a number -/

/-- The value of a magnitude. -/
def Magnitude.value (v : Magnitude) : ℚ :=
  v.significand * (2 : ℚ) ^ v.exponent

/-- The value of a finite number; infinities and what is no number at all have none. -/
def value? (x : Number) : Option ℚ :=
  if x.exponentBits = 2047 then none
  else some (if x.isNegative then -x.magnitude.value else x.magnitude.value)

/-- The number is `n`, and not the negative zero. -/
structure IsNat (x : Number) (n : ℕ) : Prop where
  unsigned : x.isNegative = false
  value : x.value? = some (n : ℚ)

/-! ## Fields -/

variable {x y : Number}

theorem fractionBits_lt (x : Number) : x.fractionBits < 2 ^ 52 :=
  Nat.mod_lt _ (by decide)

theorem toNat_bits (x : Number) :
    x.bits.toNat =
      (if x.isNegative then 2 ^ 63 else 0) + x.exponentBits * 2 ^ 52 + x.fractionBits := by
  have word : x.bits.toNat < 2 ^ 64 := x.bits.toNat_lt
  unfold isNegative exponentBits fractionBits
  simp only [Nat.pow_eq, decide_eq_true_eq]
  split_ifs <;> omega

/-- A number is determined by its sign, exponent bits and fraction bits. -/
theorem ext_fields (sign : x.isNegative = y.isNegative) (exponent : x.exponentBits = y.exponentBits)
    (fraction : x.fractionBits = y.fractionBits) : x = y := by
  have bits : x.bits.toNat = y.bits.toNat := by
    rw [toNat_bits, toNat_bits, sign, exponent, fraction]
  cases x
  cases y
  exact congrArg Number.mk (UInt64.toNat_inj.1 bits)

/-! ## Magnitudes -/

/-- The significand fills its 53 bits, unless the exponent is the least one. -/
structure Magnitude.IsCanonical (v : Magnitude) : Prop where
  significand_lt : v.significand < 2 ^ 53
  exponent_ge : -1074 ≤ v.exponent
  significand_ge : v.exponent ≠ -1074 → 2 ^ 52 ≤ v.significand

theorem isCanonical_magnitude (x : Number) : x.magnitude.IsCanonical := by
  have fraction := x.fractionBits_lt
  unfold magnitude
  rw [Nat.pow_eq]
  split_ifs with subnormal
  · exact ⟨by simp only; omega, le_rfl, fun h => absurd rfl h⟩
  · exact ⟨by simp only; omega, by simp only; omega, fun _ => Nat.le_add_right _ _⟩

/-- Of two canonical magnitudes with one value none has the smaller exponent: the significand of the
other one would have to be below `2 ^ 52`. -/
theorem Magnitude.IsCanonical.exponent_le {v w : Magnitude} (hv : v.IsCanonical)
    (hw : w.IsCanonical) (same : v.value = w.value) : w.exponent ≤ v.exponent := by
  by_contra! smaller
  have full : (2 : ℚ) ^ 52 ≤ w.significand := by
    exact_mod_cast hw.significand_ge (by have := hv.exponent_ge; omega)
  have bounded : (v.significand : ℚ) < 2 ^ 53 := by exact_mod_cast hv.significand_lt
  have unit : (0 : ℚ) < 2 ^ v.exponent := by positivity
  refine lt_irrefl v.value ?_
  calc
    v.value < 2 ^ 53 * (2 : ℚ) ^ v.exponent := mul_lt_mul_of_pos_right bounded unit
    _ = 2 ^ 52 * (2 : ℚ) ^ (v.exponent + 1) := by
      rw [zpow_add_one₀ two_ne_zero]
      ring
    _ ≤ w.significand * (2 : ℚ) ^ w.exponent :=
      mul_le_mul full (zpow_le_zpow_right₀ one_le_two smaller) (by positivity) (by positivity)
    _ = v.value := same.symm

theorem Magnitude.IsCanonical.eq_of_value_eq {v w : Magnitude} (hv : v.IsCanonical)
    (hw : w.IsCanonical) (same : v.value = w.value) : v = w := by
  have exponents : v.exponent = w.exponent :=
    le_antisymm (hw.exponent_le hv same.symm) (hv.exponent_le hw same)
  obtain ⟨significand, exponent⟩ := v
  obtain ⟨significand', exponent'⟩ := w
  obtain rfl : exponent = exponent' := exponents
  have significands : (significand : ℚ) = significand' :=
    mul_right_cancel₀ (zpow_ne_zero exponent two_ne_zero) same
  rw [Nat.cast_injective significands]

/-- The magnitude tells the exponent bits and the fraction bits. -/
theorem fields_eq_of_magnitude_eq (same : x.magnitude = y.magnitude) :
    x.exponentBits = y.exponentBits ∧ x.fractionBits = y.fractionBits := by
  have fraction := x.fractionBits_lt
  have fraction' := y.fractionBits_lt
  unfold magnitude at same
  rw [Nat.pow_eq] at same
  split_ifs at same <;> injection same <;> omega

/-! ## Whole numbers -/

theorem IsNat.value_magnitude {n : ℕ} (h : x.IsNat n) : x.magnitude.value = n := by
  have value := h.value
  simp only [value?, h.unsigned, Bool.false_eq_true, if_false] at value
  split_ifs at value
  exact Option.some_injective _ value

/-- A number without a sign is determined by its value. -/
theorem IsNat.unique {n : ℕ} (hx : x.IsNat n) (hy : y.IsNat n) : x = y := by
  have magnitudes : x.magnitude = y.magnitude :=
    x.isCanonical_magnitude.eq_of_value_eq y.isCanonical_magnitude
      (hx.value_magnitude.trans hy.value_magnitude.symm)
  obtain ⟨exponents, fractions⟩ := fields_eq_of_magnitude_eq magnitudes
  exact ext_fields (hx.unsigned.trans hy.unsigned.symm) exponents fractions

section OfNat

variable {n : ℕ}

/-- Shifted to the left the binary digits of `n` fill 53 bits. -/
theorem shifted_bounds (nonzero : n ≠ 0) (small : n < 2 ^ 53) :
    2 ^ 52 ≤ n * 2 ^ (52 - n.log2) ∧ n * 2 ^ (52 - n.log2) < 2 ^ 53 := by
  have digits : n.log2 < 53 := (Nat.log2_lt nonzero).2 small
  have split : ∀ k, 2 ^ (n.log2 + k) * 2 ^ (52 - n.log2) = 2 ^ (52 + k) := fun k => by
    rw [← Nat.pow_add]
    congr 1
    omega
  constructor
  · rw [← split 0]
    exact Nat.mul_le_mul_right _ (Nat.log2_self_le nonzero)
  · rw [← split 1]
    exact Nat.mul_lt_mul_of_pos_right Nat.lt_log2_self (Nat.two_pow_pos _)

variable (nonzero : n ≠ 0) (small : n < 2 ^ 53)
include nonzero small

theorem toNat_bits_ofNat :
    (ofNat n).bits.toNat = (n.log2 + 1022) * 2 ^ 52 + n * 2 ^ (52 - n.log2) := by
  have digits : n.log2 < 53 := (Nat.log2_lt nonzero).2 small
  have shifted := (shifted_bounds nonzero small).2
  simp only [ofNat, if_neg nonzero, if_pos (Nat.le_of_lt_succ digits), Nat.pow_eq]
  refine UInt64.toNat_ofNat'.trans (Nat.mod_eq_of_lt ?_)
  omega

/-- The leading digit of the shifted ones counts in the exponent bits. -/
theorem fields_ofNat :
    (ofNat n).isNegative = false ∧ (ofNat n).exponentBits = n.log2 + 1023 ∧
      (ofNat n).fractionBits = n * 2 ^ (52 - n.log2) - 2 ^ 52 := by
  have digits : n.log2 < 53 := (Nat.log2_lt nonzero).2 small
  obtain ⟨full, shifted⟩ := shifted_bounds nonzero small
  unfold isNegative exponentBits fractionBits
  rw [toNat_bits_ofNat nonzero small]
  simp only [Nat.pow_eq, decide_eq_false_iff_not]
  refine ⟨?_, ?_, ?_⟩ <;> omega

theorem magnitude_ofNat :
    (ofNat n).magnitude = ⟨n * 2 ^ (52 - n.log2), (n.log2 : ℤ) - 52⟩ := by
  obtain ⟨-, exponent, fraction⟩ := fields_ofNat nonzero small
  have significand : 2 ^ 52 + (n * 2 ^ (52 - n.log2) - 2 ^ 52) = n * 2 ^ (52 - n.log2) :=
    Nat.add_sub_cancel' (shifted_bounds nonzero small).1
  have shift : ((n.log2 + 1023 : ℕ) : ℤ) - 1075 = n.log2 - 52 := by omega
  rw [magnitude, exponent, fraction, if_neg (Nat.succ_ne_zero _), Nat.pow_eq, significand, shift]

theorem value_magnitude_ofNat : (ofNat n).magnitude.value = n := by
  have digits : n.log2 < 53 := (Nat.log2_lt nonzero).2 small
  have shift : ((52 - n.log2 : ℕ) : ℤ) + ((n.log2 : ℤ) - 52) = 0 := by omega
  rw [magnitude_ofNat nonzero small, Magnitude.value]
  push_cast
  rw [← zpow_natCast, mul_assoc, ← zpow_add₀ two_ne_zero, shift, zpow_zero, mul_one]

end OfNat

/-- The conversion is exact on whole numbers of at most 53 binary digits. -/
theorem isNat_ofNat {n : ℕ} (small : n < 2 ^ 53) : (ofNat n).IsNat n := by
  by_cases zero : n = 0
  · subst zero
    have exponent : (ofNat 0).exponentBits = 0 := rfl
    have magnitude : (ofNat 0).magnitude = ⟨0, -1074⟩ := rfl
    refine ⟨rfl, ?_⟩
    rw [value?, exponent, magnitude]
    simp [Magnitude.value]
  · have digits : n.log2 < 53 := (Nat.log2_lt zero).2 small
    obtain ⟨unsigned, exponent, -⟩ := fields_ofNat zero small
    refine ⟨unsigned, ?_⟩
    rw [value?, unsigned, exponent, if_neg (by omega), value_magnitude_ofNat zero small]
    rfl

/-- The number that the conversion gives is the only one without a sign that has the value. -/
theorem isNat_iff {n : ℕ} (small : n < 2 ^ 53) : x.IsNat n ↔ x = ofNat n := by
  constructor
  · intro h
    exact h.unique (isNat_ofNat small)
  · rintro rfl
    exact isNat_ofNat small

end Aead.Host.Number
