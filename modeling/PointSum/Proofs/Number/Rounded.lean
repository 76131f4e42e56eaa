import Mathlib.Algebra.Order.AbsoluteValue.Basic
import Mathlib.Tactic.LinearCombination
import PointSum.Proofs.Number.Decimal

/-!
# Binary numbers as rational numbers

Every finite binary number is a rational number, and a rational number is rounded to a binary one.

* `BinaryFormat.greatest`, `greatestStep`, `leastNormal` : the greatest finite number, its distance to the next lesser
  one, the least normal number; `overflowAt` : half that distance beyond the greatest, where overflow begins;
* `Binary.value` : the rational number that a finite binary number is;
* `Rounds v a` : `a` is `v` rounded to nearest, ties to even, with overflow to an infinity;
* `Rounds.magnitude_eq` : there is one magnitude that a rational number is rounded to;
* `rounds_nearest`, `rounds_toBinary` : `Binary.nearest` and the reader of decimal numbers round.
-/

namespace PointSum.Number

set_option autoImplicit false

/-- The number of the size `v` on the given side of zero. -/
def toSide (negative : Bool) (v : ℚ) : ℚ := if negative then -v else v

section Sides

variable {s t : Bool} {v w : ℚ}

@[simp] theorem toSide_zero (s : Bool) : toSide s 0 = 0 := by cases s <;> simp [toSide]

@[simp] theorem abs_toSide (s : Bool) (v : ℚ) : |toSide s v| = |v| := by cases s <;> simp [toSide]

theorem toSide_mul (s : Bool) (v w : ℚ) : toSide s v * w = toSide s (v * w) := by cases s <;> simp [toSide]

theorem abs_toSide_sub (s : Bool) (v w : ℚ) : |toSide s v - toSide s w| = |v - w| := by
  cases s with
  | false => rfl
  | true => rw [toSide, toSide, if_pos rfl, if_pos rfl, ← neg_sub', abs_neg]

theorem abs_toSide_sub_of_ne (h : s ≠ t) (hv : 0 ≤ v) (hw : 0 ≤ w) : |toSide s v - toSide t w| = v + w := by
  cases s <;> cases t <;> simp only [ne_eq, not_true_eq_false, reduceCtorEq, not_false_eq_true] at h
  · simp only [toSide, if_true, Bool.false_eq_true, if_false, sub_neg_eq_add]
    exact abs_of_nonneg (add_nonneg hv hw)
  · simp only [toSide, if_true, Bool.false_eq_true, if_false, ← neg_add', abs_neg]
    exact abs_of_nonneg (add_nonneg hv hw)

theorem toSide_natAbs (n : Int) : toSide (n < 0) n.natAbs = n := by
  rw [Nat.cast_natAbs, Int.cast_abs]
  by_cases h : n < 0
  · rw [toSide, if_pos (by simpa using h), abs_of_neg (by exact_mod_cast h), neg_neg]
  · rw [toSide, if_neg (by simpa using h), abs_of_nonneg (by exact_mod_cast not_lt.1 h)]

theorem toSide_neg_iff (hv : 0 < v) : toSide s v < 0 ↔ s = true := by
  cases s <;> simp [toSide, hv, hv.le]

theorem exists_toSide (v : ℚ) : ∃ s w, 0 ≤ w ∧ v = toSide s w := by
  rcases le_total 0 v with h | h
  · exact ⟨false, v, h, rfl⟩
  · exact ⟨true, -v, neg_nonneg.2 h, (neg_neg v).symm⟩

end Sides

namespace BinaryFormat

variable {f : BinaryFormat}

/-! ## The scale of a format -/

/-- The unit as a rational number. -/
def unit (f : BinaryFormat) : ℚ := 2 ^ (-(f.unitExponent : ℤ))

/-- The greatest finite number: every bit of its significand is set. -/
def greatest (f : BinaryFormat) : ℚ := (2 - 2 ^ (-(f.fractionBits : ℤ))) * 2 ^ ((f.exponentLimit : ℤ) - 1)

/-- The distance from the greatest finite number to the next lesser one. -/
def greatestStep (f : BinaryFormat) : ℚ := 2 ^ ((f.exponentLimit : ℤ) - 1 - f.fractionBits)

/-- The least size that is rounded to an infinity. -/
def overflowAt (f : BinaryFormat) : ℚ := f.greatest + f.greatestStep / 2

/-- The least normal number. -/
def leastNormal (f : BinaryFormat) : ℚ := 2 ^ (2 - (f.exponentLimit : ℤ))

theorem unit_pos : 0 < f.unit := zpow_pos (by norm_num) _

theorem two_pow_mul_unit (n : Nat) : (2 : ℚ) ^ n * f.unit = 2 ^ ((n : ℤ) - f.unitExponent) := by
  rw [unit, ← zpow_natCast, ← zpow_add₀ (by norm_num)]
  rfl

theorem two_pow_unitExponent_mul_unit : (2 : ℚ) ^ f.unitExponent * f.unit = 1 := by
  rw [two_pow_mul_unit, sub_self, zpow_zero]

theorem natCast_unitExponent : (f.unitExponent : ℤ) = f.exponentLimit - 2 + f.fractionBits := by
  have := two_le_exponentLimit (f := f)
  unfold unitExponent
  omega

theorem infinity_even : f.infinity % 2 = 0 := by
  obtain ⟨k, hk⟩ := Nat.exists_eq_add_of_lt f.fractionBits_pos
  rw [infinity, hk, Nat.pow_succ, ← Nat.mul_assoc, Nat.mul_mod_left]

theorem infinity_pos : 0 < f.infinity := by
  have he : 2 ^ 1 ≤ 2 ^ f.exponentBits := Nat.pow_le_pow_right (by decide) f.exponentBits_gt.le
  exact Nat.mul_pos (by omega) (Nat.two_pow_pos _)

theorem units_pred_infinity :
    f.units (f.infinity - 1) = (2 ^ (f.fractionBits + 1) - 1) * 2 ^ (2 * f.exponentLimit - 3) := by
  have hlimit := two_le_exponentLimit (f := f)
  have hbits := f.exponentBits_gt
  have hpow : 2 ^ f.exponentBits = 2 * f.exponentLimit := by
    rw [exponentLimit, ← Nat.pow_succ']
    congr 1
    omega
  have hpos : 0 < 2 ^ f.fractionBits := Nat.two_pow_pos _
  obtain ⟨s, hs⟩ : ∃ s, 2 * f.exponentLimit = s + 3 := ⟨2 * f.exponentLimit - 3, by omega⟩
  have hplace : f.infinity - 1 = s * 2 ^ f.fractionBits + (2 ^ (f.fractionBits + 1) - 1) := by
    rw [infinity, hpow, hs, show s + 3 - 1 = s + 2 by omega, Nat.add_mul, Nat.pow_succ]
    omega
  rw [hplace, units_scale (.inr (by rw [Nat.pow_succ]; omega)) (Nat.sub_le _ _), hs]
  rfl

theorem greatest_eq : f.greatest = f.units (f.infinity - 1) * f.unit := by
  have hlimit := two_le_exponentLimit (f := f)
  have hpos : 1 ≤ 2 ^ (f.fractionBits + 1) := Nat.one_le_two_pow
  rw [units_pred_infinity]
  push_cast [Nat.cast_sub hpos]
  rw [mul_assoc, two_pow_mul_unit, natCast_unitExponent]
  have hexp : ((2 * f.exponentLimit - 3 : Nat) : ℤ) - (f.exponentLimit - 2 + f.fractionBits) =
      (f.exponentLimit - 1) + -(f.fractionBits : ℤ) := by omega
  have hinv : (2 : ℚ) ^ f.fractionBits * 2 ^ (-(f.fractionBits : ℤ)) = 1 := by
    rw [← zpow_natCast, ← zpow_add₀ (by norm_num)]
    simp
  rw [hexp, zpow_add₀ (by norm_num), greatest, pow_succ]
  linear_combination (-2 * 2 ^ ((f.exponentLimit : ℤ) - 1)) * hinv

theorem infinity_eq : (f.units f.infinity : ℚ) * f.unit = f.greatest + f.greatestStep := by
  have hinv : (2 : ℚ) ^ (-(f.fractionBits : ℤ)) * 2 ^ ((f.exponentLimit : ℤ) - 1) = f.greatestStep := by
    rw [← zpow_add₀ (by norm_num), greatestStep]
    congr 1
    omega
  have hdouble : (2 : ℚ) * 2 ^ ((f.exponentLimit : ℤ) - 1) = 2 ^ (f.exponentLimit : ℤ) := by
    rw [← zpow_one_add₀ (by norm_num)]
    congr 1
    omega
  rw [units_infinity]
  push_cast
  rw [two_pow_mul_unit, greatest, ← hinv]
  push_cast
  rw [add_sub_cancel_right, ← hdouble]
  ring

/-- Overflow begins in the middle between the greatest finite magnitude and the infinity. -/
theorem two_mul_overflowAt : 2 * f.overflowAt = (f.units (f.infinity - 1) + f.units f.infinity) * f.unit := by
  rw [add_mul, infinity_eq, ← greatest_eq, overflowAt]
  ring

theorem leastNormal_eq : f.leastNormal = 2 ^ f.fractionBits * f.unit := by
  rw [two_pow_mul_unit, natCast_unitExponent, leastNormal]
  congr 1
  omega

theorem one_lt_overflowAt : 1 < f.overflowAt := by
  have hfraction : (2 : ℚ) ^ (-(f.fractionBits : ℤ)) ≤ 1 / 2 :=
    calc (2 : ℚ) ^ (-(f.fractionBits : ℤ)) ≤ 2 ^ (-1 : ℤ) :=
          zpow_le_zpow_right₀ (by norm_num) (by have := f.fractionBits_pos; omega)
      _ = 1 / 2 := by norm_num
  have hlimit : (2 : ℚ) ≤ 2 ^ ((f.exponentLimit : ℤ) - 1) :=
    calc (2 : ℚ) = 2 ^ (1 : ℤ) := (zpow_one 2).symm
      _ ≤ 2 ^ ((f.exponentLimit : ℤ) - 1) :=
          zpow_le_zpow_right₀ (by norm_num) (by have := f.two_le_exponentLimit; omega)
  have hgreatest : (3 / 2 : ℚ) * 2 ≤ f.greatest :=
    mul_le_mul (by linarith) hlimit (by norm_num) (by linarith)
  have hstep : 0 < f.greatestStep := zpow_pos (by norm_num) _
  unfold overflowAt
  linarith

theorem overflowAt_pos : 0 < f.overflowAt := one_pos.trans one_lt_overflowAt

theorem overflowAt_lt : f.overflowAt < 2 ^ f.exponentLimit := by
  have hunit := f.unit_pos
  have hlast : f.units (f.infinity - 1) < f.units f.infinity :=
    units_strictMono (Nat.sub_lt f.infinity_pos Nat.one_pos)
  have hlast' : (f.units (f.infinity - 1) : ℚ) * f.unit < f.units f.infinity * f.unit :=
    mul_lt_mul_of_pos_right (by exact_mod_cast hlast) hunit
  have hinfinity : (f.units f.infinity : ℚ) * f.unit = 2 ^ f.exponentLimit := by
    rw [units_infinity, Nat.pow_add]
    push_cast
    rw [mul_assoc, two_pow_unitExponent_mul_unit, mul_one]
  have hmid := f.two_mul_overflowAt
  linarith

/-! ## The nearest magnitude by distances -/

section Nearest

variable {num den m : Nat}

theorem IsNearest.above_cast (h : f.IsNearest num den m) (hden : 0 < den) {k : Nat} (hk : k < m) :
    (f.units k + f.units m : ℚ) ≤ 2 * (num / den) := by
  have hcast : ((f.units k + f.units m : Nat) : ℚ) * den ≤ 2 * num := by exact_mod_cast h.above k hk
  rw [← mul_div_assoc, le_div_iff₀ (by exact_mod_cast hden)]
  exact_mod_cast hcast

theorem IsNearest.below_cast (h : f.IsNearest num den m) (hden : 0 < den) {k : Nat} (hk : m < k) :
    2 * (num / den) ≤ (f.units m + f.units k : ℚ) := by
  have hcast : (2 * num : ℚ) ≤ ((f.units m + f.units k : Nat) : ℚ) * den := by exact_mod_cast h.below k hk
  rw [← mul_div_assoc, div_le_iff₀ (by exact_mod_cast hden)]
  exact_mod_cast hcast

theorem IsNearest.even_cast (h : f.IsNearest num den m) (hden : 0 < den) {k : Nat} (hk : k ≠ m)
    (heq : (2 * (num / den) : ℚ) = f.units m + f.units k) : m % 2 = 0 := by
  refine h.even k hk ?_
  rw [← mul_div_assoc, div_eq_iff (by exact_mod_cast hden.ne')] at heq
  exact_mod_cast heq

theorem units_lt_cast {k : Nat} (h : k < m) : (f.units k : ℚ) < f.units m := by exact_mod_cast units_strictMono h

theorem IsNearest.abs_sub_le (h : f.IsNearest num den m) (hden : 0 < den) (k : Nat) :
    |(num / den : ℚ) - f.units m| ≤ |(num / den : ℚ) - f.units k| := by
  rcases Nat.lt_trichotomy k m with hk | rfl | hk
  · have hmid := h.above_cast hden hk
    have hlt := units_lt_cast (f := f) hk
    rw [abs_of_nonneg (show (0 : ℚ) ≤ num / den - f.units k by linarith), abs_le]
    constructor <;> linarith
  · exact le_rfl
  · have hmid := h.below_cast hden hk
    have hlt := units_lt_cast (f := f) hk
    rw [abs_of_nonpos (show (num / den : ℚ) - f.units k ≤ 0 by linarith), abs_le]
    constructor <;> linarith

theorem add_eq_of_abs_eq {q : ℚ} {k : Nat} (hk : k ≠ m) (heq : |q - f.units m| = |q - f.units k|) :
    2 * q = f.units m + f.units k := by
  rcases abs_eq_abs.1 heq with h | h
  · have hunits : (f.units m : ℚ) = f.units k := by linarith
    exact absurd (units_strictMono.injective (by exact_mod_cast hunits)) (Ne.symm hk)
  · linarith

theorem IsNearest.eq_of_abs_eq (h : f.IsNearest num den m) (hden : 0 < den) {k : Nat} (heven : k % 2 = 0)
    (heq : |(num / den : ℚ) - f.units m| = |(num / den : ℚ) - f.units k|) : k = m := by
  by_contra hk
  have hmid := add_eq_of_abs_eq hk heq
  have hm := h.even_cast hden hk hmid
  rcases Nat.lt_or_gt_of_ne hk with hlt | hlt
  · have hnear := h.above_cast hden (show m - 1 < m by omega)
    have := units_lt_cast (f := f) (show k < m - 1 by omega)
    linarith
  · have hnear := h.below_cast hden (show m < m + 1 by omega)
    have := units_lt_cast (f := f) (show m + 1 < k by omega)
    linarith

end Nearest

end BinaryFormat

namespace Binary

variable {f : BinaryFormat} {a b : Binary f} {v w : ℚ}

/-! ## Values -/

/-- The rational number that a finite binary number is. -/
def value (a : Binary f) : ℚ := a.units * f.unit

theorem value_eq_toSide (a : Binary f) : a.value = toSide a.negative (f.units a.magnitude * f.unit) := by
  rw [value, ← toSide_mul, units, toSide]
  split
  · push_cast
    rfl
  · rfl

theorem abs_value (a : Binary f) : |a.value| = f.units a.magnitude * f.unit := by
  have := f.unit_pos
  rw [value_eq_toSide, abs_toSide, abs_of_nonneg (by positivity)]

@[simp] theorem value_zero (s : Bool) : (zero s : Binary f).value = 0 := by
  simp [value_eq_toSide, zero]

theorem value_eq_zero_iff : a.value = 0 ↔ a.magnitude = 0 := by
  rw [← abs_eq_zero, abs_value, mul_eq_zero_iff_right f.unit_pos.ne', Nat.cast_eq_zero]
  constructor
  · intro h
    exact BinaryFormat.units_strictMono.injective (h.trans f.units_zero.symm)
  · intro h
    rw [h, f.units_zero]

@[simp] theorem negative_nearest (s : Bool) (num den : Nat) : (nearest s num den : Binary f).negative = s := rfl

@[simp] theorem magnitude_nearest (s : Bool) (num den : Nat) :
    (nearest s num den : Binary f).magnitude = f.nearest num den := rfl

theorem isFinite_iff : a.isFinite ↔ a.magnitude < f.infinity := by simp [isFinite]

theorem isInfinite_iff : a.isInfinite ↔ a.magnitude = f.infinity := by simp [isInfinite]

theorem isNaN_iff : a.isNaN ↔ f.infinity < a.magnitude := by simp [isNaN]

theorem abs_sub_value (v : ℚ) (a : Binary f) :
    |toSide a.negative (v * f.unit) - a.value| = |v - f.units a.magnitude| * f.unit := by
  rw [value_eq_toSide, abs_toSide_sub, ← sub_mul, abs_mul, abs_of_pos f.unit_pos]

theorem abs_sub_value_of_ne {s : Bool} (hs : s ≠ a.negative) (hv : 0 ≤ v) :
    |toSide s (v * f.unit) - a.value| = |v - f.units 0| * f.unit + |a.value| := by
  have := f.unit_pos
  rw [abs_value, value_eq_toSide, abs_toSide_sub_of_ne hs (by positivity) (by positivity), f.units_zero, Nat.cast_zero,
    sub_zero, abs_of_nonneg hv]

/-! ## Rounding -/

/-- The binary number is the rational number `v` rounded. It is finite below the place where overflow begins and an
infinity from there on. If it is finite, then no finite number is nearer to `v`, and if another is as near then its
last bit is zero. If `v` is not zero, it has the sign of `v`. -/
structure Rounds (v : ℚ) (a : Binary f) : Prop where
  finite_iff : a.isFinite ↔ |v| < f.overflowAt
  infinite_iff : a.isInfinite ↔ f.overflowAt ≤ |v|
  closest : a.isFinite → ∀ b : Binary f, b.isFinite → |v - a.value| ≤ |v - b.value|
  even : a.isFinite → ∀ b : Binary f, b.isFinite → b.value ≠ a.value → |v - a.value| = |v - b.value| →
    a.magnitude % 2 = 0
  sign : v ≠ 0 → (a.negative = true ↔ v < 0)

variable {num den m : Nat}

theorem lt_overflowAt_iff (h : f.IsNearest num den m) (hden : 0 < den) :
    (num / den : ℚ) * f.unit < f.overflowAt ↔ m < f.infinity := by
  have hpos := f.unit_pos
  have hmid := f.two_mul_overflowAt
  have hscale : (num / den : ℚ) * f.unit < f.overflowAt ↔
      2 * (num / den) < (f.units (f.infinity - 1) + f.units f.infinity : ℚ) := by
    rw [← mul_lt_mul_iff_left₀ hpos (b := 2 * _), ← hmid]
    constructor <;> intro hlt <;> linarith
  have hlast := f.infinity_pos
  rw [hscale]
  constructor
  · intro hlt
    by_contra hm
    have habove := h.above_cast hden (show f.infinity - 1 < m by omega)
    have : (f.units f.infinity : ℚ) ≤ f.units m := by exact_mod_cast f.units_le (show f.infinity ≤ m by omega)
    linarith
  · intro hm
    have hbelow := h.below_cast hden hm
    have hle : (f.units m : ℚ) ≤ f.units (f.infinity - 1) := by
      exact_mod_cast f.units_le (show m ≤ f.infinity - 1 by omega)
    refine lt_of_le_of_ne (by linarith) fun heq => ?_
    -- In the middle the nearest magnitude would be even, and it would be the one before the infinity.
    have heven := h.even_cast hden hm.ne' (by linarith)
    have hunits : (f.units m : ℚ) = f.units (f.infinity - 1) := by linarith
    have := BinaryFormat.units_strictMono.injective (show f.units m = f.units (f.infinity - 1) by exact_mod_cast hunits)
    have := f.infinity_even
    omega

/-- What is nearest to a quotient of units is the quotient rounded. -/
theorem rounds_nearest (s : Bool) (num : Nat) (hden : 0 < den) :
    Rounds (toSide s (num / den * f.unit)) (nearest s num den : Binary f) := by
  have hpos := f.unit_pos
  have hquot : (0 : ℚ) ≤ num / den := by positivity
  have hnear := BinaryFormat.roundUnits_isNearest (f := f) num hden
  have hlt := lt_overflowAt_iff hnear hden
  have hsize : |toSide s (num / den * f.unit)| = num / den * f.unit := by
    rw [abs_toSide, abs_of_nonneg (by positivity)]
  have hmin : (nearest s num den : Binary f).magnitude = min (f.roundUnits num den) f.infinity := rfl
  have hfinite : (nearest s num den : Binary f).isFinite ↔ f.roundUnits num den < f.infinity := by
    rw [isFinite_iff, hmin]
    omega
  have hmag : (nearest s num den : Binary f).isFinite →
      (nearest s num den : Binary f).magnitude = f.roundUnits num den := by
    intro h
    rw [hmin, Nat.min_eq_left (hfinite.1 h).le]
  constructor
  · rw [hsize, hlt, hfinite]
  · rw [hsize, ← not_lt, hlt, isInfinite_iff, hmin]
    omega
  · intro h b _
    have hdist := abs_sub_value (num / den) (nearest s num den : Binary f)
    rw [negative_nearest, hmag h] at hdist
    rw [hdist]
    by_cases hb : s = b.negative
    · rw [hb, abs_sub_value]
      exact mul_le_mul_of_nonneg_right (hnear.abs_sub_le hden _) hpos.le
    · rw [abs_sub_value_of_ne hb hquot]
      have := mul_le_mul_of_nonneg_right (hnear.abs_sub_le hden 0) hpos.le
      have := abs_nonneg b.value
      linarith
  · intro h b _ hne heq
    have hdist := abs_sub_value (num / den) (nearest s num den : Binary f)
    rw [negative_nearest, hmag h] at hdist
    rw [hdist] at heq
    rw [hmag h]
    -- A number on the other side of zero is as near only if it is zero.
    have hmid : ∃ k, f.roundUnits num den ≠ k ∧
        |(num / den : ℚ) - f.units (f.roundUnits num den)| = |(num / den : ℚ) - f.units k| := by
      by_cases hb : s = b.negative
      · rw [hb, abs_sub_value] at heq
        refine ⟨b.magnitude, fun hk => hne ?_, mul_right_cancel₀ hpos.ne' heq⟩
        rw [value_eq_toSide, value_eq_toSide, negative_nearest, hmag h, hk, hb]
      · rw [abs_sub_value_of_ne hb hquot] at heq
        have hle := mul_le_mul_of_nonneg_right (hnear.abs_sub_le hden 0) hpos.le
        have hnonneg := abs_nonneg b.value
        have hzero : b.value = 0 := abs_eq_zero.1 (by linarith)
        refine ⟨0, fun hk => hne ?_, mul_right_cancel₀ hpos.ne' (by linarith)⟩
        rw [hzero, eq_comm, value_eq_zero_iff, hmag h, hk]
    obtain ⟨k, hk, habs⟩ := hmid
    exact hnear.even_cast hden hk.symm (BinaryFormat.add_eq_of_abs_eq hk.symm habs)
  · intro hv
    have hv' : (num / den : ℚ) * f.unit ≠ 0 := fun h0 => hv (by rw [h0, toSide_zero])
    rw [toSide_neg_iff (lt_of_le_of_ne (by positivity) hv'.symm), negative_nearest]

theorem Rounds.eq_nearest {s : Bool} (hden : 0 < den) (h : Rounds (toSide s (num / den * f.unit)) a) :
    a.magnitude = f.nearest num den := by
  have hpos := f.unit_pos
  have hquot : (0 : ℚ) ≤ num / den := by positivity
  have hn := rounds_nearest (f := f) s num hden
  by_cases hfin : a.isFinite
  · have hfin' : (nearest s num den : Binary f).isFinite := hn.finite_iff.2 (h.finite_iff.1 hfin)
    have hdist := le_antisymm (h.closest hfin _ hfin') (hn.closest hfin' _ hfin)
    have hnear := BinaryFormat.roundUnits_isNearest (f := f) num hden
    have hround : f.nearest num den = f.roundUnits num den := by
      rw [isFinite_iff, magnitude_nearest] at hfin'
      rw [BinaryFormat.nearest_eq_min] at hfin' ⊢
      omega
    have hside := abs_sub_value (num / den) (nearest s num den : Binary f)
    rw [negative_nearest, magnitude_nearest] at hside
    by_cases hvalue : (nearest s num den : Binary f).value = a.value
    · have hsize := congrArg abs hvalue
      rw [abs_value, abs_value] at hsize
      have hunits := mul_right_cancel₀ hpos.ne' hsize
      exact (BinaryFormat.units_strictMono.injective (by exact_mod_cast hunits)).symm
    · have heven := h.even hfin _ hfin' hvalue hdist
      rw [hround] at hside ⊢
      rw [hside] at hdist
      by_cases hs : s = a.negative
      · rw [hs, abs_sub_value] at hdist
        exact hnear.eq_of_abs_eq hden heven (mul_right_cancel₀ hpos.ne' hdist).symm
      · rw [abs_sub_value_of_ne hs hquot] at hdist
        have hle := mul_le_mul_of_nonneg_right (hnear.abs_sub_le hden 0) hpos.le
        have hnonneg := abs_nonneg a.value
        have hzero := value_eq_zero_iff.1 (abs_eq_zero.1 (show |a.value| = 0 by linarith))
        rw [hzero]
        exact hnear.eq_of_abs_eq hden rfl (mul_right_cancel₀ hpos.ne' (by linarith))
  · have hover := not_lt.1 fun hlt => hfin (h.finite_iff.2 hlt)
    rw [isInfinite_iff.1 (h.infinite_iff.2 hover), ← magnitude_nearest s, isInfinite_iff.1 (hn.infinite_iff.2 hover)]

theorem exists_quotient (f : BinaryFormat) (v : ℚ) :
    ∃ s num den, 0 < den ∧ v = toSide s ((num : Nat) / (den : Nat) * f.unit) := by
  obtain ⟨s, w, hw, rfl⟩ := exists_toSide v
  have hpos := f.unit_pos
  have hnum : 0 ≤ (w / f.unit).num := Rat.num_nonneg.2 (by positivity)
  refine ⟨s, (w / f.unit).num.toNat, (w / f.unit).den, (w / f.unit).den_pos, ?_⟩
  have hcast : (((w / f.unit).num.toNat : Nat) : ℚ) = (w / f.unit).num := by exact_mod_cast Int.toNat_of_nonneg hnum
  rw [hcast, Rat.num_div_den, div_mul_cancel₀ _ hpos.ne']

/-- There is one magnitude that a rational number is rounded to. -/
theorem Rounds.magnitude_eq (ha : Rounds v a) (hb : Rounds v b) : a.magnitude = b.magnitude := by
  obtain ⟨s, num, den, hden, rfl⟩ := exists_quotient f v
  rw [ha.eq_nearest hden, hb.eq_nearest hden]

theorem rounds_zero (s : Bool) : Rounds 0 (zero s : Binary f) := by
  have hfin : (zero s : Binary f).isFinite := isFinite_iff.2 f.infinity_pos
  have hover := f.overflowAt_pos
  constructor
  · simp [hfin, hover]
  · rw [abs_zero, isInfinite_iff]
    exact iff_of_false f.infinity_pos.ne hover.not_ge
  · intro _ b _
    rw [value_zero, sub_zero, abs_zero]
    exact abs_nonneg _
  · intro _ _ _ _ _
    rfl
  · intro h
    exact absurd rfl h

end Binary

/-! ## Decimal numbers -/

namespace Decimal

variable {f : BinaryFormat}

/-- The binary number that a decimal number is read as is the decimal number rounded. -/
theorem rounds_toBinary (s : Bool) (d : Decimal) : Binary.Rounds (toSide s d.value) (d.toBinary f s) := by
  have hnearest : d.toBinary f s =
      Binary.nearest s (d.digits * 10 ^ d.exponent.toNat * 2 ^ f.unitExponent) (10 ^ (-d.exponent).toNat) := by
    simp only [toBinary, Binary.nearest, magnitude_eq_nearest]
  have hvalue : d.value =
      ((d.digits * 10 ^ d.exponent.toNat * 2 ^ f.unitExponent : Nat) : ℚ) / ((10 ^ (-d.exponent).toNat : Nat) : ℚ) *
        f.unit := by
    rw [value_eq_div, div_mul_eq_mul_div, Nat.cast_mul _ (2 ^ f.unitExponent), mul_assoc, Nat.cast_pow 2,
      Nat.cast_ofNat, BinaryFormat.two_pow_unitExponent_mul_unit, mul_one]
  rw [hnearest, hvalue]
  exact Binary.rounds_nearest s _ (Nat.pow_pos (by decide))

end Decimal

end PointSum.Number
