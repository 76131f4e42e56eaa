import PointSum.Proofs.Number.Rounded

/-!
# Sums of binary numbers

* `IsSum a b s` : what the sum of two binary numbers is, against the exact sum of rational numbers;
* `nearest_small` : a number of units that a subnormal number has is on the grid;
* `isSum_add` : the addition of binary numbers gives the sum.
-/

namespace PointSum.Number

set_option autoImplicit false

variable {f : BinaryFormat}

theorem BinaryFormat.nearest_small {n : Nat} (h : n < 2 ^ f.fractionBits) :
    f.nearest n 1 = n ∧ f.units n = n ∧ n < f.infinity := by
  have hunits := units_scale (f := f) (.inl rfl) (show n ≤ 2 ^ (f.fractionBits + 1) by rw [Nat.pow_succ]; omega)
  rw [Nat.zero_mul, Nat.zero_add, Nat.pow_zero, Nat.mul_one] at hunits
  have he : 2 ^ 1 ≤ 2 ^ f.exponentBits := Nat.pow_le_pow_right (by decide) f.exponentBits_gt.le
  have hlt : n < f.infinity :=
    Nat.lt_of_lt_of_le h (Nat.le_mul_of_pos_left _ (show 0 < 2 ^ f.exponentBits - 1 by omega))
  have hnearest := nearest_units hlt.le
  rw [hunits] at hnearest
  exact ⟨hnearest, hunits, hlt⟩

namespace Binary

variable {a b s : Binary f}

/-- The binary number `s` is the sum of `a` and `b`. -/
structure IsSum (a b s : Binary f) : Prop where
  nan : a.isNaN ∨ b.isNaN ∨ a.isInfinite ∧ b.isInfinite ∧ a.negative ≠ b.negative → s.isNaN
  infinite_left : a.isInfinite → b.isFinite ∨ b.isInfinite ∧ b.negative = a.negative → s = a
  infinite_right : b.isInfinite → a.isFinite → s = b
  /-- Finite numbers have their exact sum rounded. -/
  rounds : a.isFinite → b.isFinite → Rounds (a.value + b.value) s
  exact : a.isFinite → b.isFinite → |a.value + b.value| < f.leastNormal →
    s.isFinite ∧ s.value = a.value + b.value
  /-- Only two negative zeros have a negative zero as their sum. -/
  zero : a.isFinite → b.isFinite → a.value + b.value = 0 →
    s = if a = zero true ∧ b = zero true then zero true else zero false

theorem not_isNaN_of_isFinite (h : a.isFinite) : a.isNaN = false := by
  rw [isFinite_iff] at h
  exact decide_eq_false h.le.not_gt

theorem not_isInfinite_of_isFinite (h : a.isFinite) : a.isInfinite = false := by
  rw [isFinite_iff] at h
  exact beq_eq_false_iff_ne.2 h.ne

theorem not_isNaN_of_isInfinite (h : a.isInfinite) : a.isNaN = false := by
  rw [isInfinite_iff] at h
  exact decide_eq_false h.le.not_gt

/-! ## The cases of the addition -/

theorem add_of_isNaN (h : a.isNaN ∨ b.isNaN) : a.add b = nan := by
  rw [add, if_pos (by simpa using h)]

theorem add_of_infinite_left (ha : a.isInfinite) (hb : b.isNaN = false) :
    a.add b = if b.isInfinite ∧ a.negative ≠ b.negative then nan else a := by
  have hnan := not_isNaN_of_isInfinite ha
  simp [add, hnan, hb, ha]

theorem add_of_infinite_right (hb : b.isInfinite) (ha : a.isFinite) : a.add b = b := by
  simp [add, not_isNaN_of_isFinite ha, not_isNaN_of_isInfinite hb, not_isInfinite_of_isFinite ha, hb]

theorem add_of_isFinite (ha : a.isFinite) (hb : b.isFinite) :
    a.add b = if a.units + b.units = 0 then Binary.zero (a.negative && b.negative)
      else nearest (a.units + b.units < 0) (a.units + b.units).natAbs 1 := by
  simp [add, not_isNaN_of_isFinite ha, not_isNaN_of_isFinite hb, not_isInfinite_of_isFinite ha,
    not_isInfinite_of_isFinite hb]

theorem value_add_value (a b : Binary f) : a.value + b.value = (a.units + b.units : Int) * f.unit := by
  rw [value, value, Int.cast_add, add_mul]

theorem value_add_value_eq_zero_iff : a.value + b.value = 0 ↔ a.units + b.units = 0 := by
  rw [value_add_value, mul_eq_zero_iff_right f.unit_pos.ne', Int.cast_eq_zero]

theorem rounds_add (ha : a.isFinite) (hb : b.isFinite) : Rounds (a.value + b.value) (a.add b) := by
  rw [add_of_isFinite ha hb]
  split
  · next hzero =>
    rw [value_add_value_eq_zero_iff.2 hzero]
    exact rounds_zero _
  · have h := rounds_nearest (f := f) (a.units + b.units < 0) (a.units + b.units).natAbs Nat.one_pos
    rwa [Nat.cast_one, div_one, ← toSide_mul, toSide_natAbs, ← value_add_value] at h

theorem value_add_of_small (ha : a.isFinite) (hb : b.isFinite) (h : |a.value + b.value| < f.leastNormal) :
    (a.add b).isFinite ∧ (a.add b).value = a.value + b.value := by
  have hpos := f.unit_pos
  have hsmall : (a.units + b.units).natAbs < 2 ^ f.fractionBits := by
    rw [value_add_value, abs_mul, abs_of_pos hpos, f.leastNormal_eq, mul_lt_mul_iff_left₀ hpos, ← Int.cast_abs,
      ← Nat.cast_natAbs] at h
    exact_mod_cast h
  rw [add_of_isFinite ha hb]
  split
  · next hzero =>
    rw [value_add_value_eq_zero_iff.2 hzero, value_zero]
    exact ⟨isFinite_iff.2 f.infinity_pos, rfl⟩
  · obtain ⟨hnearest, hunits, hlt⟩ := BinaryFormat.nearest_small hsmall
    constructor
    · rwa [isFinite_iff, magnitude_nearest, hnearest]
    · rw [value_eq_toSide, negative_nearest, magnitude_nearest, hnearest, hunits, ← toSide_mul, toSide_natAbs,
        value_add_value]

theorem eq_zero_of_units (ha : a.units = 0) : a = zero a.negative := by
  have hvalue : a.value = 0 := by rw [value, ha, Int.cast_zero, zero_mul]
  obtain ⟨s, m, hm⟩ := a
  obtain rfl : m = 0 := value_eq_zero_iff.1 hvalue
  rfl

theorem add_of_cancel (ha : a.isFinite) (hb : b.isFinite) (h : a.value + b.value = 0) :
    a.add b = if a = Binary.zero true ∧ b = Binary.zero true then Binary.zero true else Binary.zero false := by
  have hunits := value_add_value_eq_zero_iff.1 h
  rw [add_of_isFinite ha hb, if_pos hunits]
  by_cases hneg : a.negative ∧ b.negative
  · have hle : ∀ c : Binary f, c.negative → c.units ≤ 0 := by
      intro c hc
      rw [units, if_pos hc]
      omega
    have hau := hle a hneg.1
    have hbu := hle b hneg.2
    have haz := eq_zero_of_units (show a.units = 0 by omega)
    have hbz := eq_zero_of_units (show b.units = 0 by omega)
    rw [hneg.1] at haz
    rw [hneg.2] at hbz
    rw [if_pos ⟨haz, hbz⟩, hneg.1, hneg.2]
    rfl
  · rw [if_neg]
    · congr 1
      simpa using hneg
    · rintro ⟨rfl, rfl⟩
      exact hneg ⟨rfl, rfl⟩

/-- The addition of binary numbers gives the sum. -/
theorem isSum_add (a b : Binary f) : IsSum a b (a.add b) := by
  constructor
  · intro h
    by_cases hnan : a.isNaN ∨ b.isNaN
    · rw [add_of_isNaN hnan]
      exact nan_isNaN
    · obtain ⟨ha, hb, hne⟩ := (or_assoc.2 h).resolve_left hnan
      rw [add_of_infinite_left ha (not_isNaN_of_isInfinite hb), if_pos ⟨hb, hne⟩]
      exact nan_isNaN
  · rintro ha (hb | ⟨hb, hside⟩)
    · rw [add_of_infinite_left ha (not_isNaN_of_isFinite hb), if_neg (by simp [not_isInfinite_of_isFinite hb])]
    · rw [add_of_infinite_left ha (not_isNaN_of_isInfinite hb), if_neg (by simp [hside])]
  · exact add_of_infinite_right
  · exact rounds_add
  · exact value_add_of_small
  · exact add_of_cancel

end Binary

end PointSum.Number
