import PointSum.Proofs.Number.SignificantDigits

/-!
# The shortest decimal number is the shortest and the closest

The decimal numbers whose last digit counts the same power of ten are a grid, and the grids are nested. All of them but
the finer ones are multiples of `10 ^ -f.unitExponent`; `ticks` counts these.

* `Reads f m n` : so many ticks are read as the magnitude; `Reads.between` : what is between two that are, is;
* `IsChoice` : the point of a grid that `shorten` takes: of the points that are read as the magnitude none on the grid
  is closer, and none is on the next coarser grid, up to the grid of the leading digit; `exists_isChoice` : it does;
* `precision n` : how many significant digits `n` has;
* `exists_reads_grid` : what is read as the magnitude and has few significant digits is on a coarse grid, or else there
  is a point of the grid between it and the exact number;
* `shortest_minimal` : no decimal number that is read as the magnitude has fewer significant digits than the shortest,
  and none with as many is closer.
-/

namespace PointSum.Number

set_option autoImplicit false

variable {f : BinaryFormat} {m exact : Nat}

/-! ## Ticks -/

/-- So many times the least power of ten that the finite numbers of the format are multiples of. -/
def ticks (f : BinaryFormat) (n : Nat) : Decimal := ⟨n, -(f.unitExponent : Int)⟩

/-- So many ticks are read as the magnitude. -/
def Reads (f : BinaryFormat) (m n : Nat) : Prop := (ticks f n).magnitude f = m

instance (f : BinaryFormat) (m n : Nat) : Decidable (Reads f m n) := inferInstanceAs (Decidable (_ = _))

theorem value_ticks (n : Nat) : (ticks f n).value = n * 10 ^ (-(f.unitExponent : ℤ)) := rfl

theorem value_ticks_le {a b : Nat} (h : a ≤ b) : (ticks f a).value ≤ (ticks f b).value := by
  rw [value_ticks, value_ticks]
  exact mul_le_mul_of_nonneg_right (by exact_mod_cast h) (by positivity)

theorem value_grid (f : BinaryFormat) (p j : Nat) :
    (⟨p, (j : Int) - f.unitExponent⟩ : Decimal).value = (ticks f (p * 10 ^ j)).value := by
  rw [ticks, Decimal.value_mul_pow]
  congr 2
  omega

theorem magnitude_grid (p j : Nat) :
    (⟨p, (j : Int) - f.unitExponent⟩ : Decimal).magnitude f = m ↔ Reads f m (p * 10 ^ j) := by
  rw [Reads, Decimal.magnitude_congr (value_grid f p j)]

theorem magnitude_between {a b c : Decimal} (ha : a.magnitude f = m) (hc : c.magnitude f = m)
    (hab : a.value ≤ b.value) (hbc : b.value ≤ c.value) : b.magnitude f = m :=
  Nat.le_antisymm (hc ▸ Decimal.magnitude_mono hbc) (ha ▸ Decimal.magnitude_mono hab)

theorem Reads.between {a b c : Nat} (ha : Reads f m a) (hc : Reads f m c) (hab : a ≤ b) (hbc : b ≤ c) :
    Reads f m b :=
  magnitude_between ha hc (value_ticks_le hab) (value_ticks_le hbc)

/-! ## Neighbours on a grid -/

section Neighbours

variable {step y : Nat}

theorem Reads.below (hexact : Reads f m exact) (hy : Reads f m (y * step)) (hstep : 0 < step)
    (hle : y * step ≤ exact) : y * step ≤ exact / step * step ∧ Reads f m (exact / step * step) := by
  have hquot : y * step ≤ exact / step * step := Nat.mul_le_mul_right _ ((Nat.le_div_iff_mul_le hstep).2 hle)
  exact ⟨hquot, hy.between hexact hquot (Nat.div_mul_le_self _ _)⟩

theorem Reads.above (hexact : Reads f m exact) (hy : Reads f m (y * step)) (hstep : 0 < step)
    (hlt : exact < y * step) : (exact / step + 1) * step ≤ y * step ∧ Reads f m ((exact / step + 1) * step) := by
  have hquot : (exact / step + 1) * step ≤ y * step :=
    Nat.mul_le_mul_right _ ((Nat.div_lt_iff_lt_mul hstep).2 hlt)
  have habove : exact ≤ (exact / step + 1) * step := by
    rw [Nat.mul_comm]
    exact (Nat.lt_mul_div_succ exact hstep).le
  exact ⟨hquot, hexact.between hy habove hquot⟩

/-- The lower neighbour is closest, if the upper one does not read or is farther. -/
theorem Reads.below_closest (hexact : Reads f m exact) (hstep : 0 < step)
    (hfar : Reads f m ((exact / step + 1) * step) → 2 * (exact % step) < step) (hy : Reads f m (y * step)) :
    |(exact : ℚ) - (exact / step * step : Nat)| ≤ |(exact : ℚ) - (y * step : Nat)| := by
  have hdiv := Nat.div_add_mod' exact step
  have hlow : ((exact / step * step : Nat) : ℚ) ≤ exact := by exact_mod_cast Nat.div_mul_le_self exact step
  rw [abs_of_nonneg (sub_nonneg.2 hlow)]
  rcases le_or_gt (y * step) exact with hle | hlt
  · have hquot : ((y * step : Nat) : ℚ) ≤ (exact / step * step : Nat) := by exact_mod_cast (hexact.below hy hstep hle).1
    rw [abs_of_nonneg (by linarith)]
    linarith
  · -- A point above is at least the upper neighbour, and that one is farther.
    obtain ⟨hquot, habove⟩ := hexact.above hy hstep hlt
    have hmid : 2 * exact ≤ exact / step * step + y * step := by
      have := hfar habove
      rw [Nat.add_mul, Nat.one_mul] at hquot
      omega
    have hmid' : (2 : ℚ) * exact ≤ (exact / step * step : Nat) + (y * step : Nat) := by exact_mod_cast hmid
    rw [abs_of_nonpos (by linarith)]
    linarith

/-- The upper neighbour is closest, if the lower one does not read or is not nearer. -/
theorem Reads.above_closest (hexact : Reads f m exact) (hstep : 0 < step)
    (hfar : Reads f m (exact / step * step) → step ≤ 2 * (exact % step)) (hy : Reads f m (y * step)) :
    |(exact : ℚ) - ((exact / step + 1) * step : Nat)| ≤ |(exact : ℚ) - (y * step : Nat)| := by
  have hdiv := Nat.div_add_mod' exact step
  have hupper : exact / step * step + step = (exact / step + 1) * step := by rw [Nat.add_mul, Nat.one_mul]
  have hmod := Nat.mod_lt exact hstep
  have hhigh : (exact : ℚ) ≤ ((exact / step + 1) * step : Nat) := by
    have : exact ≤ (exact / step + 1) * step := by omega
    exact_mod_cast this
  rw [abs_of_nonpos (sub_nonpos.2 hhigh)]
  rcases le_or_gt (y * step) exact with hle | hlt
  · -- A point below is at most the lower neighbour, and that one is not nearer.
    obtain ⟨hquot, hbelow⟩ := hexact.below hy hstep hle
    have hmid : (exact / step + 1) * step + y * step ≤ 2 * exact := by
      have := hfar hbelow
      omega
    have hmid' : (((exact / step + 1) * step : Nat) : ℚ) + (y * step : Nat) ≤ 2 * exact := by exact_mod_cast hmid
    rw [abs_of_nonneg (by linarith)]
    linarith
  · have hquot : (((exact / step + 1) * step : Nat) : ℚ) ≤ (y * step : Nat) := by
      exact_mod_cast (hexact.above hy hstep hlt).1
    rw [abs_of_nonpos (by linarith)]
    linarith

end Neighbours

/-! ## The choice of a grid -/

/-- The point `p` of the grid of place `j` is the one that `shorten` takes from the given place on. -/
structure IsChoice (f : BinaryFormat) (m exact place j p : Nat) : Prop where
  le_place : j ≤ place
  neighbour : p = exact / 10 ^ j ∨ p = exact / 10 ^ j + 1
  reads : Reads f m (p * 10 ^ j)
  closest : ∀ y, Reads f m (y * 10 ^ j) → |(exact : ℚ) - (p * 10 ^ j : Nat)| ≤ |(exact : ℚ) - (y * 10 ^ j : Nat)|
  coarser : j < place → ∀ y, ¬ Reads f m (y * 10 ^ (j + 1))

theorem Reads.not_of_neighbours {step : Nat} (hexact : Reads f m exact) (hstep : 0 < step)
    (hbelow : ¬ Reads f m (exact / step * step)) (habove : ¬ Reads f m ((exact / step + 1) * step)) (y : Nat) :
    ¬ Reads f m (y * step) := by
  intro hy
  rcases le_or_gt (y * step) exact with hle | hlt
  · exact hbelow (hexact.below hy hstep hle).2
  · exact habove (hexact.above hy hstep hlt).2

theorem shorten_succ (place : Nat) {step : Nat} (hstep : 10 ^ (place + 1) = step) :
    shorten f m exact (place + 1) =
      if Reads f m (exact / step * step) ∧
          (¬ Reads f m ((exact / step + 1) * step) ∨ 2 * (exact % step) < step) then
        ⟨exact / step, (place + 1 : Nat) - (f.unitExponent : Int)⟩
      else if Reads f m ((exact / step + 1) * step) then
        ⟨exact / step + 1, (place + 1 : Nat) - (f.unitExponent : Int)⟩
      else shorten f m exact place := by
  subst hstep
  simp only [shorten, ← magnitude_grid]
  simp

/-- What `shorten` gives is the choice of a grid. -/
theorem exists_isChoice (hexact : Reads f m exact) (place : Nat) :
    ∃ j p : Nat, shorten f m exact place = ⟨p, (j : Int) - f.unitExponent⟩ ∧ IsChoice f m exact place j p := by
  induction place with
  | zero =>
    have hreads : Reads f m (exact * 10 ^ 0) := by rwa [Nat.pow_zero, Nat.mul_one]
    refine ⟨0, exact, by simp [shorten], le_rfl, by simp, hreads, fun y _ => ?_, fun h => absurd h (lt_irrefl 0)⟩
    rw [Nat.pow_zero, Nat.mul_one, sub_self, abs_zero]
    exact abs_nonneg _
  | succ place ih =>
    have hstep : 0 < 10 ^ (place + 1) := Nat.pow_pos (by decide)
    have hlast : ¬ place + 1 < place + 1 := lt_irrefl _
    rw [shorten_succ place rfl]
    split
    · next h =>
      exact ⟨place + 1, _, rfl, le_rfl, .inl rfl, h.1,
        fun y => hexact.below_closest hstep fun habove => h.2.resolve_left (not_not.2 habove), fun h => absurd h hlast⟩
    · next h =>
      split
      · next habove =>
        have hfar : Reads f m (exact / 10 ^ (place + 1) * 10 ^ (place + 1)) →
            10 ^ (place + 1) ≤ 2 * (exact % 10 ^ (place + 1)) :=
          fun hbelow => Nat.le_of_not_lt fun hnear => h ⟨hbelow, .inr hnear⟩
        exact ⟨place + 1, _, rfl, le_rfl, .inr rfl, habove, fun y => hexact.above_closest hstep hfar,
          fun h => absurd h hlast⟩
      · next habove =>
        have hbelow := fun hbelow => h ⟨hbelow, .inl habove⟩
        obtain ⟨j, p, heq, hchoice⟩ := ih
        refine ⟨j, p, heq, { hchoice with le_place := Nat.le_succ_of_le hchoice.le_place, coarser := fun _ => ?_ }⟩
        rcases Nat.lt_or_ge j place with hlt | hge
        · exact hchoice.coarser hlt
        · -- The grid of the place above is the one without a point that reads.
          obtain rfl : j = place := Nat.le_antisymm hchoice.le_place hge
          exact hexact.not_of_neighbours hstep hbelow habove

/-! ## Numbers of significant digits -/

/-- How many significant digits the number has. -/
def precision (n : Nat) : Nat := (significantDigits (decimal n)).length

theorem exists_eq_mul_pow (n : Nat) : ∃ e z, n = e * 10 ^ z ∧ e < 10 ^ precision n := by
  rcases Nat.eq_zero_or_pos n with rfl | hn
  · exact ⟨0, 0, rfl, by decide⟩
  · refine ⟨_, _, ((ofDigits_stripZeros (decimal n)).trans (ofDigits_decimal n)).symm, ?_⟩
    rw [precision, significantDigits_decimal hn.ne']
    exact ofDigits_lt (digits_stripZeros (digits_decimal n))

theorem precision_le {n k : Nat} (hk : 0 < k) (h : n ≤ 10 ^ k) : precision n ≤ k := by
  rcases Nat.eq_zero_or_pos n with rfl | hn
  · exact Nat.zero_le k
  · rw [precision, significantDigits_decimal hn.ne']
    rcases Nat.lt_or_eq_of_le h with hlt | rfl
    · have hlen := length_stripZeros (decimal n)
      have := decimal_length_le hk hlt
      omega
    · have hone : decimal (10 ^ k) = ['1'] ++ List.replicate k '0' := by
        rw [← Nat.one_mul (10 ^ k), decimal_mul_pow Nat.one_pos]
        rfl
      rw [hone, stripZeros_append_zeros (by decide)]
      exact hk

theorem eq_zero_of_precision {n : Nat} (h : precision n = 0) : n = 0 := by
  obtain ⟨e, z, hn, he⟩ := exists_eq_mul_pow n
  rw [h, Nat.pow_zero, Nat.lt_one_iff] at he
  rw [hn, he, Nat.zero_mul]

theorem exists_grid_or_lt (f : BinaryFormat) (d : Nat) (k : Int) (j : Nat) :
    (∃ y, (⟨d, k⟩ : Decimal).value = (ticks f (y * 10 ^ j)).value) ∨
      10 * (⟨d, k⟩ : Decimal).value < (ticks f (10 ^ (precision d + j))).value := by
  obtain ⟨e, z, rfl, he⟩ := exists_eq_mul_pow d
  rw [Decimal.value_mul_pow]
  -- The last significant digit counts a power of ten of the grid, or one that is less.
  rcases le_or_gt ((j : Int) - f.unitExponent) (k + z) with hle | hlt
  · obtain ⟨i, hi⟩ := Int.eq_ofNat_of_zero_le (sub_nonneg.2 hle)
    refine .inl ⟨e * 10 ^ i, ?_⟩
    rw [← value_grid, Decimal.value_mul_pow]
    congr 2
    omega
  · right
    have hpow : (0 : ℚ) < 10 ^ (k + z) := zpow_pos (by norm_num) _
    have hdigits : (e : ℚ) < 10 ^ precision (e * 10 ^ z) := by exact_mod_cast he
    calc 10 * (e * (10 : ℚ) ^ (k + z)) < 10 * (10 ^ precision (e * 10 ^ z) * 10 ^ (k + z)) :=
          mul_lt_mul_of_pos_left (mul_lt_mul_of_pos_right hdigits hpow) (by norm_num)
      _ = 10 ^ precision (e * 10 ^ z) * 10 ^ (k + z + 1) := by rw [zpow_add_one₀ (by norm_num)]; ring
      _ ≤ 10 ^ precision (e * 10 ^ z) * 10 ^ ((j : Int) - f.unitExponent) :=
          mul_le_mul_of_nonneg_left (zpow_le_zpow_right₀ (by norm_num) (by omega)) (by positivity)
      _ = (ticks f (10 ^ (precision (e * 10 ^ z) + j))).value := by
          rw [value_ticks, pow_add, sub_eq_add_neg, zpow_add₀ (by norm_num), zpow_natCast]
          push_cast
          ring

/-! ## Competitors -/

variable {j p place d : Nat} {k : Int}

/-- What is read as the magnitude and has few significant digits is on a coarse grid, or the power of ten of the leading
digit is between it and the exact number. That is on the grid, is read as the magnitude, and is closer. -/
theorem exists_reads_grid (hexact : Reads f m exact) (hplace : 10 ^ place ≤ exact)
    (hc : (⟨d, k⟩ : Decimal).magnitude f = m) (hj : j ≤ place) (hfew : precision d + j ≤ place + 1) :
    ∃ y, Reads f m (y * 10 ^ j) ∧
      |(ticks f exact).value - (ticks f (y * 10 ^ j)).value| ≤ |(ticks f exact).value - (⟨d, k⟩ : Decimal).value| := by
  rcases exists_grid_or_lt f d k j with ⟨y, hy⟩ | hlt
  · refine ⟨y, ?_, by rw [hy]⟩
    rw [Reads, ← Decimal.magnitude_congr hy]
    exact hc
  · have hlead : 10 ^ (place - j) * 10 ^ j = 10 ^ place := by rw [← Nat.pow_add, Nat.sub_add_cancel hj]
    have hle := value_ticks_le (f := f) hplace
    have hbelow : (⟨d, k⟩ : Decimal).value < (ticks f (10 ^ place)).value := by
      have hbound := value_ticks_le (f := f) (Nat.pow_le_pow_right (show 0 < 10 by decide) hfew)
      have hten : (ticks f (10 ^ (place + 1))).value = 10 * (ticks f (10 ^ place)).value := by
        rw [value_ticks, value_ticks, Nat.pow_succ]
        push_cast
        ring
      linarith
    refine ⟨10 ^ (place - j), ?_, ?_⟩
    · rw [hlead]
      exact magnitude_between hc hexact hbelow.le hle
    · rw [hlead, abs_of_nonneg (sub_nonneg.2 hle), abs_of_nonneg (by linarith)]
      linarith

namespace IsChoice

variable (h : IsChoice f m exact place j p) (hexact : Reads f m exact) (hlow : 10 ^ place ≤ exact)
include h

theorem precision_le (hhigh : exact < 10 ^ (place + 1)) : precision p + j ≤ place + 1 := by
  have hj := h.le_place
  have hquot : exact / 10 ^ j < 10 ^ (place + 1 - j) := by
    rw [Nat.div_lt_iff_lt_mul (Nat.pow_pos (by decide)), ← Nat.pow_add, Nat.sub_add_cancel (by omega)]
    exact hhigh
  have hle : p ≤ 10 ^ (place + 1 - j) := by
    rcases h.neighbour with hp | hp <;> omega
  have := Number.precision_le (show 0 < place + 1 - j by omega) hle
  omega

include hexact hlow

theorem precision_minimal (hhigh : exact < 10 ^ (place + 1)) (hm : m ≠ 0) (hc : (⟨d, k⟩ : Decimal).magnitude f = m) :
    precision p ≤ precision d := by
  by_contra hlt
  have hp := h.precision_le hhigh
  rcases Nat.lt_or_eq_of_le h.le_place with hj | rfl
  · obtain ⟨y, hy, -⟩ := exists_reads_grid hexact hlow hc (show j + 1 ≤ place by omega) (by omega)
    exact h.coarser hj y hy
  · -- On the grid of the leading digit there is one significant digit, and nothing with none is read but zero.
    have hd := eq_zero_of_precision (show precision d = 0 by omega)
    rw [hd] at hc
    exact hm hc.symm

theorem closest_of_precision (hhigh : exact < 10 ^ (place + 1)) (hc : (⟨d, k⟩ : Decimal).magnitude f = m)
    (hd : precision d ≤ precision p) :
    |(ticks f exact).value - (ticks f (p * 10 ^ j)).value| ≤ |(ticks f exact).value - (⟨d, k⟩ : Decimal).value| := by
  have hp := h.precision_le hhigh
  obtain ⟨y, hy, hcloser⟩ := exists_reads_grid hexact hlow hc h.le_place (by omega)
  refine le_trans ?_ hcloser
  have hunit : (0 : ℚ) ≤ 10 ^ (-(f.unitExponent : ℤ)) := by positivity
  simp only [value_ticks, ← sub_mul, abs_mul, abs_of_nonneg hunit]
  exact mul_le_mul_of_nonneg_right (h.closest y hy) hunit

end IsChoice

/-! ## The shortest number -/

theorem value_exact (m : Nat) : (ticks f (f.units m * 5 ^ f.unitExponent)).value = f.units m * f.unit := by
  have hpow : (5 : ℚ) ^ f.unitExponent * 10 ^ (-(f.unitExponent : ℤ)) = 2 ^ (-(f.unitExponent : ℤ)) := by
    rw [show (10 : ℚ) = 5 * 2 by norm_num, mul_zpow, ← mul_assoc, ← zpow_natCast, ← zpow_add₀ (by norm_num),
      add_neg_cancel, zpow_zero, one_mul]
  rw [value_ticks, BinaryFormat.unit, ← hpow]
  push_cast
  ring

/-- No decimal number that is read as the magnitude has fewer significant digits than the shortest, and none with as
many is closer. -/
theorem shortest_minimal (hpos : m ≠ 0) (hm : m ≤ f.infinity) (hc : (⟨d, k⟩ : Decimal).magnitude f = m) :
    precision (shortest f m).digits ≤ precision d ∧
      (precision d = precision (shortest f m).digits →
        |f.units m * f.unit - (shortest f m).value| ≤ |f.units m * f.unit - (⟨d, k⟩ : Decimal).value|) := by
  have hexact : Reads f m (f.units m * 5 ^ f.unitExponent) := Decimal.magnitude_exact hm
  have hunits : f.units m ≠ 0 := by
    rw [← f.units_zero]
    exact BinaryFormat.units_strictMono.injective.ne hpos
  have hne : f.units m * 5 ^ f.unitExponent ≠ 0 := Nat.mul_ne_zero hunits (Nat.pow_pos (by decide)).ne'
  have hlen := decimal_length_pos (f.units m * 5 ^ f.unitExponent)
  have hlow := pow_le_of_lt_decimal_length hne (Nat.sub_lt hlen Nat.one_pos)
  have hhigh := lt_pow_decimal_length (f.units m * 5 ^ f.unitExponent)
  rw [← Nat.sub_add_cancel hlen] at hhigh
  obtain ⟨j, p, heq, hchoice⟩ := exists_isChoice hexact ((decimal (f.units m * 5 ^ f.unitExponent)).length - 1)
  rw [shortest, heq, value_grid, ← value_exact]
  exact ⟨hchoice.precision_minimal hexact hlow hhigh hpos hc,
    fun hd => hchoice.closest_of_precision hexact hlow hhigh hc hd.le⟩

end PointSum.Number
