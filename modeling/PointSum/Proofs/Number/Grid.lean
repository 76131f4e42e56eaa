import Mathlib.Algebra.Ring.Parity
import Mathlib.Order.Monotone.Basic
import Mathlib.Tactic.Linarith
import Mathlib.Tactic.Ring
import PointSum.Number.Binary

/-!
# Rounding to the grid of magnitudes

The magnitudes of a format are a grid: `f.units m` is the place of `m`, in units.

* `roundHalfEven_spec` : the two halves around a rounded quotient, which belong to it if it is even;
* `units_scale` : a magnitude by its scale and significand; `units_strictMono` : the grid ascends;
* `IsNearest f num den m` : no other magnitude is as near to `num / den` as `m`, or `m` is even and one is;
* `IsNearest.unique`, `IsNearest.mono` : there is one nearest magnitude, and it grows with the quotient;
* `nearest_eq_min` : `f.nearest` finds it, up to the infinity; from this come `nearest_units` (what is on the grid
  stays), `nearest_mono`, `nearest_eq_infinity` and `nearest_eq_zero`.
-/

namespace PointSum.Number

set_option autoImplicit false

/-! ## Rounding quotients -/

theorem roundHalfEven_spec (num : Nat) {den : Nat} (hden : 0 < den) :
    2 * roundHalfEven num den * den ≤ 2 * num + den ∧ 2 * num ≤ (2 * roundHalfEven num den + 1) * den ∧
      (2 * roundHalfEven num den * den = 2 * num + den → roundHalfEven num den % 2 = 0) ∧
      (2 * num = (2 * roundHalfEven num den + 1) * den → roundHalfEven num den % 2 = 0) := by
  have hdiv := Nat.div_add_mod num den
  have hmod := Nat.mod_lt num hden
  unfold roundHalfEven
  generalize hb : num / den = below at hdiv ⊢
  generalize hr : num % den = rest at hdiv hmod ⊢
  have hmul : below * den = den * below := Nat.mul_comm _ _
  have hsucc : 2 * (below + 1) * den = 2 * (den * below) + 2 * den := by ring
  have hodd : (2 * below + 1) * den = 2 * (den * below) + den := by ring
  have hodd' : (2 * (below + 1) + 1) * den = 2 * (den * below) + 3 * den := by ring
  have heven : 2 * below * den = 2 * (den * below) := by ring
  simp only
  split
  · rw [heven, hodd]
    omega
  · split
    · rw [hsucc, hodd']
      omega
    · split
      · rw [heven, hodd]
        omega
      · rw [hsucc, hodd']
        omega

/-- A quotient at most a whole number is rounded to at most that. -/
theorem roundHalfEven_le {num den t : Nat} (hden : 0 < den) (h : num ≤ t * den) : roundHalfEven num den ≤ t := by
  obtain ⟨hle, -, -, -⟩ := roundHalfEven_spec num hden
  by_contra hlt
  have : (2 * (t + 1)) * den ≤ 2 * roundHalfEven num den * den := Nat.mul_le_mul_right _ (by omega)
  have hring : (2 * (t + 1)) * den = 2 * (t * den) + 2 * den := by ring
  omega

/-- A quotient at least a whole number is rounded to at least that. -/
theorem le_roundHalfEven {num den t : Nat} (hden : 0 < den) (h : t * den ≤ num) : t ≤ roundHalfEven num den := by
  obtain ⟨-, hle, -, -⟩ := roundHalfEven_spec num hden
  by_contra hlt
  have : (2 * roundHalfEven num den + 1) * den ≤ (2 * t - 1) * den := Nat.mul_le_mul_right _ (by omega)
  have hring : (2 * t - 1) * den + den = 2 * (t * den) := by
    rw [← Nat.succ_mul, show (2 * t - 1).succ = 2 * t by omega, Nat.mul_assoc]
  omega

namespace BinaryFormat

variable {f : BinaryFormat}

/-! ## The grid -/

/-- The place of a significand at a scale: a significand below its power of two stands at the least scale only, and
the next power of two is the first significand of the next scale. -/
theorem units_scale {s t : Nat} (hs : s = 0 ∨ 2 ^ f.fractionBits ≤ t) (ht : t ≤ 2 ^ (f.fractionBits + 1)) :
    f.units (s * 2 ^ f.fractionBits + t) = t * 2 ^ s := by
  have hpos : 0 < 2 ^ f.fractionBits := Nat.two_pow_pos _
  rw [Nat.pow_succ] at ht
  unfold units
  rcases Nat.lt_or_ge t (2 ^ f.fractionBits) with hlt | hge
  · obtain rfl : s = 0 := hs.resolve_right (by omega)
    simp [Nat.div_eq_of_lt hlt, Nat.mod_eq_of_lt hlt]
  · obtain ⟨r, rfl⟩ := Nat.exists_eq_add_of_le hge
    have hsum : s * 2 ^ f.fractionBits + (2 ^ f.fractionBits + r) = r + 2 ^ f.fractionBits * (s + 1) := by ring
    rw [hsum, Nat.add_mul_div_left _ _ hpos, Nat.add_mul_mod_self_left]
    rcases Nat.lt_or_ge r (2 ^ f.fractionBits) with hr | hr
    · simp [Nat.div_eq_of_lt hr, Nat.mod_eq_of_lt hr]
    · obtain rfl : r = 2 ^ f.fractionBits := by omega
      rw [Nat.div_self hpos, Nat.mod_self]
      simp only [show 1 + (s + 1) ≠ 0 by omega, if_false, Nat.add_zero]
      rw [show 1 + (s + 1) - 1 = s + 1 by omega, Nat.pow_succ]
      ring

/-- Every magnitude has a scale and a significand. -/
theorem exists_scale (m : Nat) : ∃ s t, m = s * 2 ^ f.fractionBits + t ∧ (s = 0 ∨ 2 ^ f.fractionBits ≤ t) ∧
    t < 2 ^ (f.fractionBits + 1) := by
  have hdiv := Nat.div_add_mod m (2 ^ f.fractionBits)
  have hmod := Nat.mod_lt m (Nat.two_pow_pos f.fractionBits)
  rw [Nat.pow_succ]
  rcases Nat.eq_zero_or_pos (m / 2 ^ f.fractionBits) with h | h
  · rw [h] at hdiv
    exact ⟨0, m, by simp, .inl rfl, by omega⟩
  · obtain ⟨s, hs⟩ := Nat.exists_eq_add_of_lt h
    rw [hs] at hdiv
    refine ⟨s, 2 ^ f.fractionBits + m % 2 ^ f.fractionBits, ?_, .inr (by omega), by omega⟩
    rw [← hdiv, Nat.add_mod, Nat.mul_mod_right]
    simp
    ring

theorem units_lt_succ (m : Nat) : f.units m < f.units (m + 1) := by
  obtain ⟨s, t, rfl, hs, ht⟩ := f.exists_scale m
  rw [Nat.add_assoc, units_scale hs (by omega), units_scale (by omega) (by omega), Nat.succ_mul]
  have := Nat.two_pow_pos s
  omega

theorem units_strictMono : StrictMono f.units := strictMono_nat_of_lt_succ units_lt_succ

@[simp] theorem units_zero : f.units 0 = 0 := by
  simp [units]

theorem units_le {m n : Nat} (h : m ≤ n) : f.units m ≤ f.units n := units_strictMono.monotone h

/-- A lesser magnitude is at least a step of the scale below, unless the scale begins here. -/
theorem units_add_le {s t k : Nat} (hs : s = 0 ∨ 2 ^ f.fractionBits < t) (ht : t ≤ 2 ^ (f.fractionBits + 1))
    (hk : k < s * 2 ^ f.fractionBits + t) : f.units k + 2 ^ s ≤ t * 2 ^ s := by
  have hpos : 0 < t := by
    rcases hs with rfl | h <;> omega
  have hle : f.units k ≤ f.units (s * 2 ^ f.fractionBits + (t - 1)) := units_le (by omega)
  rw [units_scale (by omega) (by omega)] at hle
  calc f.units k + 2 ^ s ≤ (t - 1) * 2 ^ s + 2 ^ s := Nat.add_le_add_right hle _
    _ = t * 2 ^ s := by rw [← Nat.succ_mul, show (t - 1).succ = t by omega]

/-- A greater magnitude is at least a step of the scale above, unless the scale ends here. -/
theorem add_le_units {s t k : Nat} (hs : s = 0 ∨ 2 ^ f.fractionBits ≤ t) (ht : t < 2 ^ (f.fractionBits + 1))
    (hk : s * 2 ^ f.fractionBits + t < k) : t * 2 ^ s + 2 ^ s ≤ f.units k := by
  have hle : f.units (s * 2 ^ f.fractionBits + (t + 1)) ≤ f.units k := units_le (by omega)
  rw [units_scale (by omega) (by omega)] at hle
  rwa [Nat.succ_mul] at hle

/-- A whole number of at most one bit more than the fraction is on the grid, at every scale. -/
theorem exists_units_eq {n : Nat} (hn : n ≤ 2 ^ (f.fractionBits + 1)) (k : Nat) :
    ∃ m, f.units m = n * 2 ^ k := by
  induction k generalizing n with
  | zero => exact ⟨0 * 2 ^ f.fractionBits + n, units_scale (.inl rfl) hn⟩
  | succ k ih =>
    rcases Nat.lt_or_ge n (2 ^ f.fractionBits) with h | h
    · -- A small number takes the factor in, and the scale goes down by one.
      obtain ⟨m, hm⟩ := ih (n := 2 * n) (by rw [Nat.pow_succ]; omega)
      exact ⟨m, by rw [hm, Nat.pow_succ]; ring⟩
    · exact ⟨(k + 1) * 2 ^ f.fractionBits + n, units_scale (.inr h) hn⟩

/-! ## The nearest magnitude -/

/-- No magnitude is nearer to `num / den` than `m`, and if another is as near then `m` is even: the quotient is
above the middle of `m` and any lesser magnitude, below the middle of `m` and any greater one, and in the middle
only for an even `m`. -/
structure IsNearest (f : BinaryFormat) (num den m : Nat) : Prop where
  above : ∀ k < m, (f.units k + f.units m) * den ≤ 2 * num
  below : ∀ k > m, 2 * num ≤ (f.units m + f.units k) * den
  /-- A middle is rounded to the even side. -/
  even : ∀ k ≠ m, 2 * num = (f.units m + f.units k) * den → m % 2 = 0

variable {num den num' den' m m' : Nat}

/-- The nearest magnitude grows with the quotient. -/
theorem IsNearest.mono (h : f.IsNearest num den m) (h' : f.IsNearest num' den' m') (hden : 0 < den)
    (hden' : 0 < den') (hle : num * den' ≤ num' * den) : m ≤ m' := by
  by_contra hlt
  replace hlt : m' < m := Nat.lt_of_not_le hlt
  -- Both quotients are then in the middle of the two magnitudes, which are even and so have one between them.
  have h₁ := Nat.mul_le_mul_right den' (h.above m' hlt)
  have h₂ := Nat.mul_le_mul_right den (h'.below m hlt)
  have hcomm : (f.units m' + f.units m) * den * den' = (f.units m' + f.units m) * den' * den := by ring
  have hnum : 2 * num * den' = 2 * (num * den') := by ring
  have hnum' : 2 * num' * den = 2 * (num' * den) := by ring
  have heq : 2 * num * den' = (f.units m' + f.units m) * den * den' := by omega
  have heq' : 2 * num' * den = (f.units m' + f.units m) * den' * den := by omega
  have hmid := Nat.eq_of_mul_eq_mul_right hden' heq
  have hmid' := Nat.eq_of_mul_eq_mul_right hden heq'
  have he := h.even m' (by omega) (by rw [hmid, Nat.add_comm])
  have he' := h'.even m (by omega) hmid'
  have hnext : m' + 1 < m := by omega
  have hbelow := h'.below (m' + 1) (by omega)
  rw [hmid'] at hbelow
  have := Nat.le_of_mul_le_mul_right hbelow hden'
  have := units_strictMono (f := f) hnext
  omega

theorem IsNearest.unique (h : f.IsNearest num den m) (h' : f.IsNearest num den m') (hden : 0 < den) : m = m' :=
  Nat.le_antisymm (h.mono h' hden hden le_rfl) (h'.mono h hden hden le_rfl)

theorem isNearest_units (m : Nat) : f.IsNearest (f.units m) 1 m := by
  constructor
  · intro k hk
    have := units_strictMono (f := f) hk
    omega
  · intro k hk
    have := units_strictMono (f := f) hk
    omega
  · intro k hk heq
    exact absurd (units_strictMono.injective (by omega : f.units m = f.units k)) (Ne.symm hk)

/-- The magnitude that `f.nearest` finds before it cuts off above the infinity. -/
def roundUnits (f : BinaryFormat) (num den : Nat) : Nat :=
  let scale := (num / den).log2 - f.fractionBits
  scale * 2 ^ f.fractionBits + roundHalfEven num (den * 2 ^ scale)

theorem nearest_eq_min (num den : Nat) : f.nearest num den = min (f.roundUnits num den) f.infinity := rfl

/-- The scale is such that the quotient has one bit more than the fraction before the point, or fewer at the least
scale. -/
theorem scale_bounds (num : Nat) (hden : 0 < den) {s : Nat} (hs : (num / den).log2 - f.fractionBits = s) :
    num < 2 ^ (f.fractionBits + 1) * (den * 2 ^ s) ∧ (s = 0 ∨ 2 ^ f.fractionBits * (den * 2 ^ s) ≤ num) := by
  constructor
  · have hlt : num / den < 2 ^ (s + f.fractionBits + 1) :=
      Nat.lt_of_lt_of_le Nat.lt_log2_self (Nat.pow_le_pow_right (by decide) (by omega))
    rw [Nat.div_lt_iff_lt_mul hden] at hlt
    calc num < 2 ^ (s + f.fractionBits + 1) * den := hlt
      _ = 2 ^ (f.fractionBits + 1) * (den * 2 ^ s) := by ring
  · rcases Nat.eq_zero_or_pos s with h | h
    · exact .inl h
    · have hne : num / den ≠ 0 := by
        intro h0
        rw [h0, Nat.log2_zero] at hs
        omega
      have hle : 2 ^ (s + f.fractionBits) ≤ num / den := by
        have := Nat.log2_self_le hne
        rwa [show (num / den).log2 = s + f.fractionBits by omega] at this
      rw [Nat.le_div_iff_mul_le hden] at hle
      right
      calc 2 ^ f.fractionBits * (den * 2 ^ s) = 2 ^ (s + f.fractionBits) * den := by ring
        _ ≤ num := hle

/-- A rounded significand is nearest among the magnitudes: to its neighbours at the same scale by the halves around
it, and where its scale begins or ends because the quotient lies on its other side. -/
theorem isNearest_scale {s t : Nat} (hden : 0 < den) (hlt : num < 2 ^ (f.fractionBits + 1) * (den * 2 ^ s))
    (hge : s = 0 ∨ 2 ^ f.fractionBits * (den * 2 ^ s) ≤ num) (ht : roundHalfEven num (den * 2 ^ s) = t) :
    f.IsNearest num den (s * 2 ^ f.fractionBits + t) := by
  have hD : 0 < den * 2 ^ s := Nat.mul_pos hden (Nat.two_pow_pos s)
  obtain ⟨hlow, hhigh, heven_low, heven_high⟩ := ht ▸ roundHalfEven_spec num hD
  have hle : t ≤ 2 ^ (f.fractionBits + 1) := ht ▸ roundHalfEven_le hD hlt.le
  have hst : s = 0 ∨ 2 ^ f.fractionBits ≤ t := hge.imp_right fun h => ht ▸ le_roundHalfEven hD h
  rw [show (2 * t + 1) * (den * 2 ^ s) = 2 * (t * 2 ^ s * den) + den * 2 ^ s by ring] at hhigh heven_high
  rw [show 2 * t * (den * 2 ^ s) = 2 * (t * 2 ^ s * den) by ring] at hlow heven_low
  -- The significand decides whether the magnitude is even, since its scale counts an even number.
  have hparity : t % 2 = 0 → (s * 2 ^ f.fractionBits + t) % 2 = 0 := by
    intro h
    obtain ⟨k, hk⟩ := Nat.exists_eq_add_of_lt f.fractionBits_pos
    rw [hk, Nat.add_mod, h, Nat.pow_succ, ← Nat.mul_assoc, Nat.mul_mod_left]
  have above : ∀ k < s * 2 ^ f.fractionBits + t, (f.units k + t * 2 ^ s) * den ≤ 2 * num ∧
      (2 * num = (f.units k + t * 2 ^ s) * den → t % 2 = 0) := by
    intro k hk
    rw [Nat.add_mul]
    by_cases hbegin : s = 0 ∨ 2 ^ f.fractionBits < t
    · have hstep := Nat.mul_le_mul_right den (units_add_le hbegin hle hk)
      rw [Nat.add_mul, Nat.mul_comm (2 ^ s) den] at hstep
      exact ⟨by omega, fun heq => heven_low (by omega)⟩
    · obtain ⟨hs, ht'⟩ := not_or.1 hbegin
      have hnum := hge.resolve_left hs
      rw [show 2 ^ f.fractionBits = t by omega, show t * (den * 2 ^ s) = t * 2 ^ s * den by ring] at hnum
      have hunits := units_strictMono (f := f) hk
      rw [units_scale hst hle] at hunits
      have := Nat.mul_lt_mul_of_pos_right hunits hden
      exact ⟨by omega, fun heq => by omega⟩
  have below : ∀ k > s * 2 ^ f.fractionBits + t, 2 * num ≤ (t * 2 ^ s + f.units k) * den ∧
      (2 * num = (t * 2 ^ s + f.units k) * den → t % 2 = 0) := by
    intro k hk
    rw [Nat.add_mul]
    by_cases hend : t < 2 ^ (f.fractionBits + 1)
    · have hstep := Nat.mul_le_mul_right den (add_le_units hst hend hk)
      rw [Nat.add_mul, Nat.mul_comm (2 ^ s) den] at hstep
      exact ⟨by omega, fun heq => heven_high (by omega)⟩
    · rw [show 2 ^ (f.fractionBits + 1) = t by omega, show t * (den * 2 ^ s) = t * 2 ^ s * den by ring] at hlt
      have hunits := units_strictMono (f := f) hk
      rw [units_scale hst hle] at hunits
      have := Nat.mul_lt_mul_of_pos_right hunits hden
      exact ⟨by omega, fun heq => by omega⟩
  rw [← units_scale hst hle] at above below
  refine ⟨fun k hk => (above k hk).1, fun k hk => (below k hk).1, fun k hk heq => hparity ?_⟩
  rcases Nat.lt_or_gt_of_ne hk with h | h
  · exact (above k h).2 (by rw [heq, Nat.add_comm])
  · exact (below k h).2 heq

theorem roundUnits_isNearest (num : Nat) (hden : 0 < den) : f.IsNearest num den (f.roundUnits num den) := by
  obtain ⟨hlt, hge⟩ := scale_bounds (f := f) num hden rfl
  exact isNearest_scale hden hlt hge rfl

/-! ## What is nearest up to the infinity -/

theorem nearest_le_infinity (num den : Nat) : f.nearest num den ≤ f.infinity := Nat.min_le_right _ _

/-- The nearest magnitude grows with the quotient. -/
theorem nearest_mono (hden : 0 < den) (hden' : 0 < den') (h : num * den' ≤ num' * den) :
    f.nearest num den ≤ f.nearest num' den' := by
  rw [nearest_eq_min, nearest_eq_min]
  have := (roundUnits_isNearest (f := f) num hden).mono (roundUnits_isNearest num' hden') hden hden' h
  omega

/-- The nearest magnitude depends on the quotient alone. -/
theorem nearest_congr (hden : 0 < den) (hden' : 0 < den') (h : num * den' = num' * den) :
    f.nearest num den = f.nearest num' den' :=
  Nat.le_antisymm (nearest_mono hden hden' h.le) (nearest_mono hden' hden h.ge)

theorem nearest_eq_of_isNearest (hden : 0 < den) (h : f.IsNearest num den m) :
    f.nearest num den = min m f.infinity := by
  rw [nearest_eq_min, (roundUnits_isNearest num hden).unique h hden]

/-- What is on the grid stays where it is. -/
theorem nearest_units (h : m ≤ f.infinity) : f.nearest (f.units m) 1 = m := by
  rw [nearest_eq_of_isNearest (by decide) (isNearest_units m), Nat.min_eq_left h]

/-- From the place of the infinity on, nothing finite is nearest. -/
theorem nearest_eq_infinity (hden : 0 < den) (h : f.units f.infinity * den ≤ num) :
    f.nearest num den = f.infinity := by
  refine Nat.le_antisymm (nearest_le_infinity _ _) ?_
  have hle : f.units f.infinity * den ≤ num * 1 := by rwa [Nat.mul_one]
  have := nearest_mono (f := f) Nat.one_pos hden hle
  rwa [nearest_units le_rfl] at this

/-- Less than half a unit is nearest to zero. -/
theorem nearest_eq_zero (hden : 0 < den) (h : 2 * num < den) : f.nearest num den = 0 := by
  have hzero : f.IsNearest num den 0 := by
    constructor
    · intro k hk
      omega
    · intro k hk
      have hpos := units_strictMono (f := f) hk
      have := Nat.mul_le_mul_right den (show 1 ≤ f.units 0 + f.units k by omega)
      omega
    · intro k hk heq
      rfl
  rw [nearest_eq_of_isNearest hden hzero, Nat.zero_min]

end BinaryFormat

end PointSum.Number
