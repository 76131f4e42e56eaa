import Mathlib.Algebra.Order.Field.Rat
import Mathlib.Algebra.Order.Field.Power
import Mathlib.Tactic.FieldSimp
import Mathlib.Tactic.NormNum
import Mathlib.Tactic.Positivity
import PointSum.Number.Decimal
import PointSum.Proofs.Number.Grid

/-!
# Decimal numbers by their values

* `Decimal.value` : the rational number that a decimal number is;
* `magnitude_eq_nearest` : the binary number of a decimal one is the nearest, also where the reader settles it without
  forming powers of ten;
* `magnitude_mono`, `magnitude_congr` : so it depends on the value alone, and grows with it;
* `magnitude_exact` : the decimal number that is exactly a magnitude is read as that magnitude.
-/

namespace PointSum.Number

set_option autoImplicit false

namespace BinaryFormat

variable {f : BinaryFormat}

theorem two_le_exponentLimit : 2 ≤ f.exponentLimit := by
  have h : 2 ^ 1 ≤ 2 ^ (f.exponentBits - 1) := Nat.pow_le_pow_right (by decide) (by have := f.exponentBits_gt; omega)
  simpa [exponentLimit] using h

/-- The infinity stands in the place of a power of two. -/
theorem units_infinity : f.units f.infinity = 2 ^ (f.exponentLimit + f.unitExponent) := by
  have hbits := f.exponentBits_gt
  have hlimit := two_le_exponentLimit (f := f)
  have hpow : 2 ^ f.exponentBits = 2 * f.exponentLimit := by
    rw [exponentLimit, ← Nat.pow_succ']
    congr 1
    omega
  have hplace : f.infinity = (2 * f.exponentLimit - 2) * 2 ^ f.fractionBits + 2 ^ f.fractionBits := by
    rw [infinity, hpow, ← Nat.succ_mul, show (2 * f.exponentLimit - 2).succ = 2 * f.exponentLimit - 1 by omega]
  rw [hplace, units_scale (.inr le_rfl) (Nat.pow_le_pow_right (by decide) (by omega)), ← Nat.pow_add]
  congr 1
  unfold unitExponent
  omega

end BinaryFormat

namespace Decimal

variable {f : BinaryFormat}

/-- The rational number that the decimal number is. -/
def value (d : Decimal) : ℚ := d.digits * (10 : ℚ) ^ d.exponent

/-- The value as a quotient of whole numbers. -/
theorem value_eq_div (d : Decimal) :
    d.value = ((d.digits * 10 ^ d.exponent.toNat : Nat) : ℚ) / ((10 ^ (-d.exponent).toNat : Nat) : ℚ) := by
  unfold value
  rcases Int.le_total 0 d.exponent with h | h
  · obtain ⟨k, hk⟩ := Int.eq_ofNat_of_zero_le h
    rw [hk, show (-(k : Int)).toNat = 0 by omega, Int.toNat_natCast, zpow_natCast]
    push_cast
    simp
  · obtain ⟨k, hk⟩ := Int.eq_ofNat_of_zero_le (Int.neg_nonneg_of_nonpos h)
    rw [show d.exponent = -(k : Int) by omega, show (-(k : Int)).toNat = 0 by omega, Int.neg_neg, Int.toNat_natCast,
      zpow_neg, zpow_natCast]
    push_cast
    simp [div_eq_mul_inv]

/-- What is settled without forming powers of ten is settled as the powers would: a power of ten is at least the power
of two, and at least the power of eight, of the same exponent. -/
theorem magnitude_eq_nearest (d : Decimal) :
    d.magnitude f =
      f.nearest (d.digits * 10 ^ d.exponent.toNat * 2 ^ f.unitExponent) (10 ^ (-d.exponent).toNat) := by
  unfold magnitude
  split
  · next h => rw [h, Nat.zero_mul, Nat.zero_mul, BinaryFormat.nearest_eq_zero (by positivity) (by positivity)]
  · next hne =>
    split
    · next hexp =>
      rw [show (-d.exponent).toNat = 0 by omega, Nat.pow_zero]
      split
      · next hbig =>
        refine (BinaryFormat.nearest_eq_infinity (by decide) ?_).symm
        rw [BinaryFormat.units_infinity, Nat.mul_one, Nat.pow_add]
        refine Nat.mul_le_mul_right _ ?_
        calc 2 ^ f.exponentLimit ≤ 2 ^ (d.digits.log2 + d.exponent.toNat) := Nat.pow_le_pow_right (by decide) hbig
          _ = 2 ^ d.digits.log2 * 2 ^ d.exponent.toNat := Nat.pow_add ..
          _ ≤ d.digits * 10 ^ d.exponent.toNat :=
            Nat.mul_le_mul (Nat.log2_self_le hne) (Nat.pow_le_pow_left (by decide) _)
      · rfl
    · next hexp =>
      rw [show d.exponent.toNat = 0 by omega, Nat.pow_zero, Nat.mul_one]
      simp only
      split
      · next hsmall =>
        refine (BinaryFormat.nearest_eq_zero (by positivity) ?_).symm
        calc 2 * (d.digits * 2 ^ f.unitExponent)
            < 2 * (2 ^ (d.digits.log2 + 1) * 2 ^ f.unitExponent) :=
              Nat.mul_lt_mul_of_pos_left (Nat.mul_lt_mul_of_pos_right Nat.lt_log2_self (by positivity)) (by decide)
          _ = 2 ^ (d.digits.log2 + f.unitExponent + 2) := by ring
          _ ≤ 2 ^ (3 * (-d.exponent).toNat) := Nat.pow_le_pow_right (by decide) hsmall
          _ = 8 ^ (-d.exponent).toNat := by rw [Nat.pow_mul]
          _ ≤ 10 ^ (-d.exponent).toNat := Nat.pow_le_pow_left (by decide) _
      · rfl

/-- A decimal number that is not less is not read as less. -/
theorem magnitude_mono {d e : Decimal} (h : d.value ≤ e.value) : d.magnitude f ≤ e.magnitude f := by
  rw [magnitude_eq_nearest, magnitude_eq_nearest]
  refine BinaryFormat.nearest_mono (by positivity) (by positivity) ?_
  rw [value_eq_div, value_eq_div, div_le_div_iff₀ (by positivity) (by positivity)] at h
  have hnat : d.digits * 10 ^ d.exponent.toNat * 10 ^ (-e.exponent).toNat ≤
      e.digits * 10 ^ e.exponent.toNat * 10 ^ (-d.exponent).toNat := by exact_mod_cast h
  calc d.digits * 10 ^ d.exponent.toNat * 2 ^ f.unitExponent * 10 ^ (-e.exponent).toNat
      = d.digits * 10 ^ d.exponent.toNat * 10 ^ (-e.exponent).toNat * 2 ^ f.unitExponent := by ring
    _ ≤ e.digits * 10 ^ e.exponent.toNat * 10 ^ (-d.exponent).toNat * 2 ^ f.unitExponent :=
      Nat.mul_le_mul_right _ hnat
    _ = e.digits * 10 ^ e.exponent.toNat * 2 ^ f.unitExponent * 10 ^ (-d.exponent).toNat := by ring

/-- Decimal numbers of one value are read as one binary number. -/
theorem magnitude_congr {d e : Decimal} (h : d.value = e.value) : d.magnitude f = e.magnitude f :=
  Nat.le_antisymm (magnitude_mono h.le) (magnitude_mono h.ge)

/-- A magnitude, written out to the last digit, is read as it is. -/
theorem magnitude_exact {m : Nat} (h : m ≤ f.infinity) :
    (⟨f.units m * 5 ^ f.unitExponent, -(f.unitExponent : Int)⟩ : Decimal).magnitude f = m := by
  rw [magnitude_eq_nearest]
  simp only [show (-(f.unitExponent : Int)).toNat = 0 by omega, Int.neg_neg, Int.toNat_natCast]
  calc f.nearest (f.units m * 5 ^ f.unitExponent * 10 ^ 0 * 2 ^ f.unitExponent) (10 ^ f.unitExponent)
      = f.nearest (f.units m) 1 := by
        have hten : 10 ^ f.unitExponent = 5 ^ f.unitExponent * 2 ^ f.unitExponent := by rw [← Nat.mul_pow]
        refine BinaryFormat.nearest_congr (by positivity) (by decide) ?_
        rw [hten]
        ring
    _ = m := BinaryFormat.nearest_units h

end Decimal

end PointSum.Number
