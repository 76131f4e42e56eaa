import PointSum.Proofs.Number.Addition
import PointSum.Proofs.Number.Word

/-!
# Laws of the additions

* `Word.add_comm`, `Word.add?_comm`, `Binary.add_comm` : the order of the operands does not matter;
* `Binary.cases_of` : a binary number is a NaN, an infinity, or finite;
* `Binary.add_zero_of_ne` : positive zero is neutral, but for negative zero and NaNs;
* `Binary.add_isNaN_iff`, `Binary.add_eq_zero_true_iff` : when a sum is a NaN, and when it is negative zero;
* `Binary.add_of_isInfinite`, `Binary.nan_add` : a finite number does not change an infinity, and none changes the NaN.
-/

namespace PointSum.Number

set_option autoImplicit false

/-! ## Words -/

namespace Word

variable {f : WordFormat}

theorem addOverflows_comm (a b : Word f) : a.addOverflows b = b.addOverflows a := by
  rw [Bool.eq_iff_iff, addOverflows_iff, addOverflows_iff, Int.add_comm]

protected theorem add_comm (a b : Word f) : a.add b = b.add a := by
  unfold add
  rw [addOverflows_comm, BitVec.add_comm]

theorem add?_comm (a b : Word f) : a.add? b = b.add? a := by
  unfold add?
  rw [Int.add_comm]

end Word

/-! ## Binary numbers -/

namespace Binary

variable {f : BinaryFormat} {a b : Binary f}

theorem cases_of (a : Binary f) : a.isNaN ∨ a.isInfinite ∨ a.isFinite := by
  rw [isNaN_iff, isInfinite_iff, isFinite_iff]
  omega

theorem not_isFinite_of_isNaN (h : a.isNaN) : a.isFinite = false := by
  rw [isNaN_iff] at h
  exact decide_eq_false h.le.not_gt

theorem not_isFinite_of_isInfinite (h : a.isInfinite) : a.isFinite = false := by
  rw [isInfinite_iff] at h
  exact decide_eq_false h.ge.not_gt

theorem eq_of_isInfinite (ha : a.isInfinite) (hb : b.isInfinite) (h : a.negative = b.negative) : a = b := by
  rw [isInfinite_iff] at ha hb
  obtain ⟨s, m, hm⟩ := a
  obtain ⟨t, n, hn⟩ := b
  obtain rfl : s = t := h
  obtain rfl : m = f.infinity := ha
  obtain rfl : n = f.infinity := hb
  rfl

protected theorem add_comm (a b : Binary f) : a.add b = b.add a := by
  rcases a.cases_of with ha | ha | ha
  · rw [add_of_isNaN (.inl ha), add_of_isNaN (.inr ha)]
  · rcases b.cases_of with hb | hb | hb
    · rw [add_of_isNaN (.inr hb), add_of_isNaN (.inl hb)]
    · -- Infinities of one sign are the same, whichever of them the sum is.
      rw [add_of_infinite_left ha (not_isNaN_of_isInfinite hb), add_of_infinite_left hb (not_isNaN_of_isInfinite ha)]
      by_cases hside : a.negative = b.negative
      · rw [eq_of_isInfinite ha hb hside]
      · rw [if_pos ⟨hb, hside⟩, if_pos ⟨ha, Ne.symm hside⟩]
    · rw [add_of_infinite_left ha (not_isNaN_of_isFinite hb), add_of_infinite_right ha hb, if_neg]
      simp [not_isInfinite_of_isFinite hb]
  · rcases b.cases_of with hb | hb | hb
    · rw [add_of_isNaN (.inr hb), add_of_isNaN (.inl hb)]
    · rw [add_of_infinite_right hb ha, add_of_infinite_left hb (not_isNaN_of_isFinite ha), if_neg]
      simp [not_isInfinite_of_isFinite ha]
    · rw [add_of_isFinite ha hb, add_of_isFinite hb ha, Int.add_comm, Bool.and_comm]

/-! ## Zero -/

theorem natAbs_units (a : Binary f) : a.units.natAbs = f.units a.magnitude := by
  unfold units
  split <;> simp

theorem units_neg_iff (h : a.magnitude ≠ 0) : a.units < 0 ↔ a.negative := by
  have hpos : 0 < f.units a.magnitude := by
    rw [← f.units_zero]
    exact BinaryFormat.units_strictMono (Nat.pos_of_ne_zero h)
  unfold units
  split
  · next hneg => simp [hneg, hpos]
  · next hneg => simp [hneg]

/-- A number is on the grid, so that nothing is rounded where zero is added. -/
theorem nearest_self (ha : a.isFinite) (h : a.magnitude ≠ 0) : nearest (a.units < 0) a.units.natAbs 1 = a := by
  have hnearest := BinaryFormat.nearest_units (f := f) (isFinite_iff.1 ha).le
  have hside : decide (a.units < 0) = a.negative := by
    rw [Bool.eq_iff_iff, decide_eq_true_iff, units_neg_iff h]
  obtain ⟨s, m, hm⟩ := a
  rw [hside, natAbs_units]
  simp only [nearest, hnearest]

@[simp] theorem isFinite_zero (s : Bool) : (zero s : Binary f).isFinite := isFinite_iff.2 f.infinity_pos

@[simp] theorem units_zero (s : Bool) : (zero s : Binary f).units = 0 := by
  cases s <;> simp [units, zero]

theorem add_zero_of_ne (ha : a.isNaN = false) (h : a.magnitude ≠ 0) : a.add (zero false) = a := by
  rcases a.cases_of with hnan | hinf | hfin
  · rw [ha] at hnan
    cases hnan
  · rw [add_of_infinite_left hinf (not_isNaN_of_isFinite (isFinite_zero false)), if_neg]
    simp [not_isInfinite_of_isFinite (isFinite_zero (f := f) false)]
  · have hunits : a.units ≠ 0 := by
      rw [ne_eq, ← Int.natAbs_eq_zero, natAbs_units, ← f.units_zero, BinaryFormat.units_strictMono.injective.eq_iff]
      exact h
    rw [add_of_isFinite hfin (isFinite_zero false), units_zero, Int.add_zero, if_neg hunits, nearest_self hfin h]

theorem zero_add_zero (s : Bool) : (zero s : Binary f).add (zero false) = zero false := by
  rw [add_of_isFinite (isFinite_zero s) (isFinite_zero false), units_zero, units_zero, Int.add_zero, if_pos rfl]
  cases s <;> rfl

theorem eq_zero_of_magnitude (h : a.magnitude = 0) : a = zero a.negative := by
  obtain ⟨s, m, hm⟩ := a
  obtain rfl : m = 0 := h
  rfl

/-! ## Infinities and NaN -/

theorem not_isFinite_nan : (nan : Binary f).isFinite = false :=
  decide_eq_false (of_decide_eq_true nan_isNaN).not_gt

theorem not_isNaN_nearest (s : Bool) (num den : Nat) : (nearest s num den : Binary f).isNaN = false :=
  decide_eq_false (BinaryFormat.nearest_le_infinity num den).not_gt

/-- A finite number does not change an infinity. -/
theorem add_of_isInfinite (ha : a.isInfinite) (hb : b.isFinite) : a.add b = a := by
  rw [add_of_infinite_left ha (not_isNaN_of_isFinite hb), if_neg]
  simp [not_isInfinite_of_isFinite hb]

/-- No number leads back from the NaN. -/
theorem nan_add (b : Binary f) : (nan : Binary f).add b = nan := add_of_isNaN (.inl nan_isNaN)

theorem not_isFinite_add (ha : a.isFinite = false) (b : Binary f) : (a.add b).isFinite = false := by
  rcases a.cases_of with hnan | hinf | hfin
  · rw [add_of_isNaN (.inl hnan), not_isFinite_nan]
  · by_cases hb : b.isNaN
    · rw [add_of_isNaN (.inr hb), not_isFinite_nan]
    · rw [add_of_infinite_left hinf (by simpa using hb)]
      split
      · exact not_isFinite_nan
      · exact ha
  · rw [ha] at hfin
    cases hfin

theorem isFinite_of_add (h : (a.add b).isFinite) : a.isFinite ∧ b.isFinite := by
  constructor
  · by_contra ha
    rw [not_isFinite_add (by simpa using ha)] at h
    cases h
  · by_contra hb
    rw [Binary.add_comm, not_isFinite_add (by simpa using hb)] at h
    cases h

/-- A sum is a NaN if an operand is, or if the operands are opposite infinities. -/
theorem add_isNaN_iff : (a.add b).isNaN ↔
    a.isNaN ∨ b.isNaN ∨ a.isInfinite ∧ b.isInfinite ∧ a.negative ≠ b.negative := by
  constructor
  · intro h
    rcases a.cases_of with ha | ha | ha
    · exact .inl ha
    · by_cases hb : b.isNaN
      · exact .inr (.inl hb)
      · rw [add_of_infinite_left ha (by simpa using hb)] at h
        split at h
        · next hside => exact .inr (.inr ⟨ha, hside⟩)
        · exact .inl h
    · rcases b.cases_of with hb | hb | hb
      · exact .inr (.inl hb)
      · rw [add_of_infinite_right hb ha] at h
        exact .inr (.inl h)
      · rw [add_of_isFinite ha hb] at h
        split at h
        · rw [not_isNaN_of_isFinite (isFinite_zero _)] at h
          cases h
        · rw [not_isNaN_nearest] at h
          cases h
  · exact (isSum_add a b).nan

/-- Of all NaNs only one is a sum. -/
theorem eq_nan_of_add (h : (a.add b).isNaN) : a.add b = nan := by
  rcases add_isNaN_iff.1 h with ha | hb | ⟨ha, hb, hside⟩
  · exact add_of_isNaN (.inl ha)
  · exact add_of_isNaN (.inr hb)
  · rw [add_of_infinite_left ha (not_isNaN_of_isInfinite hb), if_pos ⟨hb, hside⟩]

/-! ## Negative zero -/

/-- What does not cancel is at least one unit, and one unit is not rounded to zero. -/
theorem nearest_ne_zero (s : Bool) {n : Nat} (h : n ≠ 0) : (nearest s n 1 : Binary f).magnitude ≠ 0 := by
  have hone : 1 < 2 ^ f.fractionBits := Nat.one_lt_two_pow f.fractionBits_pos.ne'
  have hunit := (BinaryFormat.nearest_small hone).1
  have hmono : f.nearest 1 1 ≤ f.nearest n 1 := BinaryFormat.nearest_mono Nat.one_pos Nat.one_pos (by omega)
  rw [magnitude_nearest]
  omega

theorem add_eq_zero_true_iff : a.add b = zero true ↔ a = zero true ∧ b = zero true := by
  constructor
  · intro h
    obtain ⟨ha, hb⟩ := isFinite_of_add (h ▸ isFinite_zero true)
    by_cases hunits : a.units + b.units = 0
    · have hcancel := add_of_cancel ha hb (value_add_value_eq_zero_iff.2 hunits)
      rw [h] at hcancel
      split at hcancel
      · next hzeros => exact hzeros
      · cases hcancel
    · rw [add_of_isFinite ha hb, if_neg hunits] at h
      exact absurd (congrArg magnitude h) (nearest_ne_zero _ (Int.natAbs_ne_zero.2 hunits))
  · rintro ⟨rfl, rfl⟩
    rw [add_of_isFinite (isFinite_zero true) (isFinite_zero true), units_zero, Int.add_zero, if_pos rfl]
    rfl

end Binary

end PointSum.Number
