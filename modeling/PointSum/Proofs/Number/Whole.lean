import PointSum.Proofs.Number.Shortest
import PointSum.Proofs.Number.Word

/-!
# Whole numbers in a binary format

A whole number of at most one bit more than the fraction is on the grid of magnitudes, and the reader, the addition
and the layout of plain digits keep it as it is.

* `Ample f` : the format has room for these numbers and for the next even one; `Decimal.whole n` : a whole number as
  a decimal number;
* `units_magnitude_whole`, `magnitude_whole_lt` : such a number is read exactly, and as less than any greater one but
  the odd number right behind the last;
* `shorten_whole`, `render_shortest_whole` : so its shortest decimal number is the number without zeros at its end, and
  its plain text is its digits;
* `add_whole`, `render_add_whole` : sums of such numbers are sums of integers;
* `readLiteral_numeral` : a numeral of integers is read as the binary number of the same value.
-/

namespace PointSum.Number

set_option autoImplicit false

variable {f : BinaryFormat} {m n : Nat}

/-- The whole numbers of at most one bit more than the fraction are finite, and so is the next even one. -/
def BinaryFormat.Ample (f : BinaryFormat) : Prop := f.fractionBits + 2 ≤ f.exponentLimit

theorem ample_double : BinaryFormat.double.Ample := by unfold BinaryFormat.Ample; decide

namespace Decimal

/-! ## Reading -/

/-- The whole number as a decimal number. -/
abbrev whole (n : Nat) : Decimal := ⟨n, 0⟩

theorem magnitude_whole (n : Nat) :
    (whole n).magnitude f = f.nearest (n * 2 ^ f.unitExponent) 1 := by
  rw [magnitude_eq_nearest]
  simp

theorem magnitude_of_units (hunits : f.units m = n * 2 ^ f.unitExponent) (hm : m ≤ f.infinity) :
    (whole n).magnitude f = m := by
  rw [magnitude_whole, ← hunits, BinaryFormat.nearest_units hm]

theorem lt_infinity_of_units (hunits : f.units m = n * 2 ^ f.unitExponent) (hn : n < 2 ^ f.exponentLimit) :
    m < f.infinity := by
  rw [← BinaryFormat.units_strictMono.lt_iff_lt, hunits, BinaryFormat.units_infinity, Nat.pow_add]
  exact Nat.mul_lt_mul_of_pos_right hn (Nat.two_pow_pos _)

theorem value_le_value {n a : Nat} (h : n ≤ a) : (whole n).value ≤ (whole a).value := by
  simp only [value, zpow_zero, mul_one]
  exact_mod_cast h

/-- Such a number is read exactly. -/
theorem units_magnitude_whole (hf : f.Ample) (hn : n ≤ 2 ^ (f.fractionBits + 1)) :
    f.units ((whole n).magnitude f) = n * 2 ^ f.unitExponent ∧
      (whole n).magnitude f < f.infinity := by
  obtain ⟨m, hm⟩ := BinaryFormat.exists_units_eq hn f.unitExponent
  have hlt : m < f.infinity :=
    lt_infinity_of_units hm (Nat.lt_of_le_of_lt hn (Nat.pow_lt_pow_right (by decide) (by
      unfold BinaryFormat.Ample at hf
      omega)))
  rw [magnitude_of_units hm hlt.le]
  exact ⟨hm, hlt⟩

/-- Behind such a number, and up to any greater one but the odd number right behind the last, there is one on the
grid. -/
theorem exists_whole_between (hf : f.Ample) {a : Nat} (hn : n ≤ 2 ^ (f.fractionBits + 1)) (hlt : n < a)
    (ha : n < 2 ^ (f.fractionBits + 1) ∨ a % 2 = 0) :
    ∃ b m, n < b ∧ b ≤ a ∧ f.units m = b * 2 ^ f.unitExponent ∧ m < f.infinity := by
  unfold BinaryFormat.Ample at hf
  have hlimit : 2 ^ (f.fractionBits + 2) ≤ 2 ^ f.exponentLimit := Nat.pow_le_pow_right (by decide) hf
  have hpos : 2 ^ 1 ≤ 2 ^ f.fractionBits := Nat.pow_le_pow_right (by decide) f.fractionBits_pos
  rw [Nat.pow_succ, Nat.pow_succ] at hlimit
  rw [Nat.pow_succ] at hn ha
  rcases Nat.lt_or_ge n (2 ^ f.fractionBits * 2) with h | h
  · obtain ⟨m, hm⟩ := BinaryFormat.exists_units_eq (f := f) (n := n + 1) (by rw [Nat.pow_succ]; omega) f.unitExponent
    exact ⟨n + 1, m, by omega, hlt, hm, lt_infinity_of_units hm (by omega)⟩
  · -- The last of these numbers is even, and the next even one stands at the next scale.
    obtain ⟨m, hm⟩ :=
      BinaryFormat.exists_units_eq (f := f) (n := 2 ^ f.fractionBits + 1) (by rw [Nat.pow_succ]; omega)
        (f.unitExponent + 1)
    have hm' : f.units m = (n + 2) * 2 ^ f.unitExponent := by
      rw [hm, Nat.pow_succ, show n + 2 = (2 ^ f.fractionBits + 1) * 2 by omega]
      ring
    exact ⟨n + 2, m, by omega, by omega, hm', lt_infinity_of_units hm' (by omega)⟩

/-- Such a number is read as less than any greater one but the odd number right behind the last. -/
theorem magnitude_whole_lt (hf : f.Ample) {a : Nat} (hn : n ≤ 2 ^ (f.fractionBits + 1)) (hlt : n < a)
    (ha : n < 2 ^ (f.fractionBits + 1) ∨ a % 2 = 0) :
    (whole n).magnitude f < (whole a).magnitude f := by
  obtain ⟨b, m, hnb, hba, hm, hlim⟩ := exists_whole_between hf hn hlt ha
  have hle : (whole b).magnitude f ≤ (whole a).magnitude f := magnitude_mono (value_le_value hba)
  rw [magnitude_of_units hm hlim.le] at hle
  refine Nat.lt_of_lt_of_le ?_ hle
  rw [← BinaryFormat.units_strictMono.lt_iff_lt, (units_magnitude_whole hf hn).1, hm]
  exact Nat.mul_lt_mul_of_pos_right hnb (Nat.two_pow_pos _)

theorem magnitude_scaled (d k : Nat) :
    (⟨d, k⟩ : Decimal).magnitude f = (whole (d * 10 ^ k)).magnitude f :=
  magnitude_congr (by rw [value_mul_pow, Int.zero_add])

/-! ## The shortest decimal number -/

/-- Where the last `j` digits of such a number are left out: they are, if they are zeros, and else the place before is
looked at. Of the neighbours without them the lower is the number itself in the one case and read as less in the other,
and the upper is even and read as more. -/
theorem shorten_whole_step (hf : f.Ample) (hn : n ≤ 2 ^ (f.fractionBits + 1)) {j place : Nat}
    (hplace : f.unitExponent + j = place + 1) :
    shorten f ((whole n).magnitude f) (n * 10 ^ f.unitExponent) (place + 1) =
      if 10 ^ j ∣ n then ⟨n / 10 ^ j, j⟩
      else shorten f ((whole n).magnitude f) (n * 10 ^ f.unitExponent) place := by
  have hu : 0 < 10 ^ f.unitExponent := Nat.pow_pos (by decide)
  have hj : 0 < 10 ^ j := Nat.pow_pos (by decide)
  have hstep : 10 ^ (place + 1) = 10 ^ j * 10 ^ f.unitExponent := by rw [← hplace, Nat.pow_add, Nat.mul_comm]
  have hexponent : (place + 1 : Nat) - (f.unitExponent : Int) = j := by omega
  rw [shorten]
  simp only [hstep, hexponent, Nat.mul_div_mul_right _ _ hu, Nat.mul_mod_mul_right, magnitude_scaled]
  by_cases hdvd : 10 ^ j ∣ n
  · rw [if_pos hdvd, if_pos]
    rw [Nat.div_mul_cancel hdvd, Nat.mod_eq_zero_of_dvd hdvd]
    simp [hu]
  · have hlow : n / 10 ^ j * 10 ^ j < n :=
      Nat.lt_of_le_of_ne (Nat.div_mul_le_self _ _) fun h => hdvd (h ▸ Nat.dvd_mul_left _ _)
    have hhigh : n < (n / 10 ^ j + 1) * 10 ^ j := by
      rw [Nat.mul_comm]
      exact Nat.lt_mul_div_succ n hj
    have heven : (n / 10 ^ j + 1) * 10 ^ j % 2 = 0 := by
      cases j with
      | zero => exact absurd (one_dvd n) hdvd
      | succ j => rw [Nat.pow_succ, show 10 = 5 * 2 by rfl, ← Nat.mul_assoc, ← Nat.mul_assoc, Nat.mul_mod_left]
    have hbelow := magnitude_whole_lt hf (by omega) hlow (.inl (by omega))
    have habove := magnitude_whole_lt hf hn hhigh (.inr heven)
    rw [if_neg hdvd, if_neg (by simp [hbelow.ne]), if_neg (by simp [habove.ne'])]

/-- From any place on, the shortest decimal number for such a number is the number, without some zeros at its end. -/
theorem shorten_whole (hf : f.Ample) (hn : n ≤ 2 ^ (f.fractionBits + 1)) (j : Nat) :
    ∃ d k : Nat, shorten f ((whole n).magnitude f) (n * 10 ^ f.unitExponent) (f.unitExponent + j) = ⟨d, k⟩ ∧
      d * 10 ^ k = n := by
  have hpos : 0 < f.unitExponent := by
    have := f.fractionBits_pos
    unfold BinaryFormat.unitExponent
    omega
  induction j with
  | zero =>
    obtain ⟨place, hplace⟩ : ∃ place, f.unitExponent + 0 = place + 1 := ⟨f.unitExponent - 1, by omega⟩
    have hone : 10 ^ 0 ∣ n := one_dvd n
    rw [hplace, shorten_whole_step hf hn hplace, if_pos hone]
    exact ⟨n / 10 ^ 0, 0, rfl, Nat.div_mul_cancel hone⟩
  | succ j ih =>
    rw [← Nat.add_assoc, shorten_whole_step hf hn (Nat.add_assoc f.unitExponent j 1).symm]
    split
    · next hdvd => exact ⟨n / 10 ^ (j + 1), j + 1, rfl, Nat.div_mul_cancel hdvd⟩
    · exact ih

/-- The shortest decimal number for such a number, if it is not zero. -/
theorem shortest_whole (hf : f.Ample) (hn : n ≤ 2 ^ (f.fractionBits + 1)) (hpos : 0 < n) :
    ∃ d k : Nat, shortest f ((whole n).magnitude f) = ⟨d, k⟩ ∧ d * 10 ^ k = n := by
  have hexact : f.units ((whole n).magnitude f) * 5 ^ f.unitExponent = n * 10 ^ f.unitExponent := by
    rw [(units_magnitude_whole hf hn).1, Nat.mul_assoc, ← Nat.mul_pow]
  have hlen := lt_decimal_length (Nat.le_mul_of_pos_left (10 ^ f.unitExponent) hpos)
  obtain ⟨j, hj⟩ := Nat.exists_eq_add_of_le (Nat.le_sub_one_of_lt hlen)
  simp only [shortest, hexact, hj]
  exact shorten_whole hf hn j

/-- The plain text of a whole number is its digits. -/
theorem render_plain_whole {d : Nat} (hd : 0 < d) (k : Nat) :
    (⟨d, k⟩ : Decimal).render .plain = decimal (d * 10 ^ k) := by
  cases hstrip : stripZeros (decimal d) with
  | mk ds zeros =>
    have happ := stripZeros_append (decimal d)
    rw [hstrip] at happ
    simp only at happ
    have hpositional : Layout.plain.isPositional (⟨d, k⟩ : Decimal).lead = true := rfl
    have hplaces : ((k : Int) + zeros).toNat = zeros + k := by omega
    have hexponent : (0 : Int) ≤ (k : Int) + zeros := by omega
    rw [render_of_stripZeros .plain hd.ne' hstrip, if_pos hpositional, placeDigits, if_pos hexponent, hplaces,
      List.replicate_add, ← List.append_assoc, happ, decimal_mul_pow hd]
    simp [Layout.plain]

/-- The plain text of such a number is its digits. -/
theorem render_shortest_whole (hf : f.Ample) (hn : n ≤ 2 ^ (f.fractionBits + 1)) :
    (shortest f ((whole n).magnitude f)).render .plain = decimal n := by
  rcases Nat.eq_zero_or_pos n with rfl | hpos
  · have hzero : (whole 0).magnitude f = 0 := rfl
    have hdigits : (shortest f 0).digits = 0 := by
      rw [shortest, BinaryFormat.units_zero, Nat.zero_mul]
      rfl
    rw [hzero, render_zero .plain hdigits]
    rfl
  · obtain ⟨d, k, hd, hdk⟩ := shortest_whole hf hn hpos
    rw [hd, render_plain_whole (Nat.pos_of_mul_pos_right (hdk ▸ hpos)), hdk]

end Decimal

namespace Binary

/-! ## Sums -/

theorem isFinite_whole (hf : f.Ample) (hn : n ≤ 2 ^ (f.fractionBits + 1)) (negative : Bool) :
    ((Decimal.whole n).toBinary f negative).isNaN = false ∧
      ((Decimal.whole n).toBinary f negative).isInfinite = false := by
  have hlt := (Decimal.units_magnitude_whole hf hn).2
  exact ⟨decide_eq_false hlt.le.not_gt, beq_eq_false_iff_ne.2 hlt.ne⟩

theorem render_whole (hf : f.Ample) (hn : n ≤ 2 ^ (f.fractionBits + 1)) (negative : Bool) :
    ((Decimal.whole n).toBinary f negative).render .plain = (if negative then ['-'] else []) ++ decimal n := by
  obtain ⟨hnan, hinf⟩ := isFinite_whole hf hn negative
  simp only [render, hnan, hinf, Bool.false_eq_true, if_false]
  rw [Decimal.toBinary, Decimal.render_shortest_whole hf hn]

theorem units_whole (hf : f.Ample) (hn : n ≤ 2 ^ (f.fractionBits + 1)) (negative : Bool) :
    ((Decimal.whole n).toBinary f negative).units = onSide negative n * 2 ^ f.unitExponent := by
  have hunits := (Decimal.units_magnitude_whole hf hn).1
  simp only [units, Decimal.toBinary, hunits, onSide]
  split <;> push_cast <;> ring

/-- The sum of two such numbers is the binary number of the sum of the integers. A sum of zero is negative if both
numbers are. -/
theorem add_whole (hf : f.Ample) (hm : m ≤ 2 ^ (f.fractionBits + 1)) (hn : n ≤ 2 ^ (f.fractionBits + 1))
    (s t : Bool) {sum : Int} (hsum : onSide s m + onSide t n = sum) :
    ((Decimal.whole m).toBinary f s).add ((Decimal.whole n).toBinary f t) =
      (Decimal.whole sum.natAbs).toBinary f (if sum = 0 then s && t else sum < 0) := by
  have hunits : ((Decimal.whole m).toBinary f s).units + ((Decimal.whole n).toBinary f t).units =
      sum * 2 ^ f.unitExponent := by
    rw [units_whole hf hm, units_whole hf hn, ← hsum, Int.add_mul]
  have hpow : (0 : Int) < 2 ^ f.unitExponent := Int.pow_pos (by decide)
  obtain ⟨hnan, hinf⟩ := isFinite_whole hf hm s
  obtain ⟨hnan', hinf'⟩ := isFinite_whole hf hn t
  simp only [add, hnan, hnan', hinf, hinf', hunits, Bool.or_false, Bool.false_eq_true, if_false]
  by_cases hzero : sum = 0
  · rw [hzero, Int.zero_mul, if_pos rfl, if_pos rfl]
    rfl
  · rw [if_neg (mul_ne_zero hzero hpow.ne'), if_neg hzero]
    simp only [nearest, Decimal.toBinary, Binary.mk.injEq]
    refine ⟨?_, ?_⟩
    · simp [Int.mul_neg_iff, hpow, hpow.le]
    · rw [Decimal.magnitude_whole, Int.natAbs_mul]
      congr 2

/-- The plain text of a sum of such numbers is that of the integer, unless both are negative zeros. -/
theorem render_add_whole (hf : f.Ample) (hm : m ≤ 2 ^ (f.fractionBits + 1)) (hn : n ≤ 2 ^ (f.fractionBits + 1))
    {s t : Bool} {sum : Int} (hsum : onSide s m + onSide t n = sum) (hbound : sum.natAbs ≤ 2 ^ (f.fractionBits + 1))
    (hzeros : ¬ (s ∧ t ∧ m = 0 ∧ n = 0)) :
    (((Decimal.whole m).toBinary f s).add ((Decimal.whole n).toBinary f t)).render .plain = signedDecimal sum := by
  rw [add_whole hf hm hn s t hsum, render_whole hf hbound, signedDecimal]
  by_cases hzero : sum = 0
  · have hsign : (s && t) = false := by
      by_contra hst
      obtain ⟨rfl, rfl⟩ : s = true ∧ t = true := by simpa using hst
      have hneg : -(m : Int) + -(n : Int) = 0 := by simpa [onSide, hzero] using hsum
      exact hzeros ⟨rfl, rfl, by omega, by omega⟩
    simp [hzero, hsign]
  · by_cases hneg : sum < 0 <;> simp [hzero, hneg]

/-! ## Reading numerals -/

theorem onSide_natAbs {negative : Bool} {k : Nat} {z : Int} (h : z = onSide negative k) :
    onSide negative z.natAbs = z := by
  subst h
  unfold onSide
  split <;> simp

/-- A numeral of integers is read as the binary number nearest to its integer, with the sign that is written. -/
theorem readLiteral_numeral {w : WordFormat} {cs : List Char} {z : Int} (h : Numeral w cs z) :
    readLiteral f cs = .ok ((Decimal.whole z.natAbs).toBinary f (cs.head? = some '-')) ∧
      onSide (cs.head? = some '-') z.natAbs = z := by
  obtain ⟨ds, hne, hds, -, hcs⟩ := h
  have hread := Decimal.read_whole hds hne Decimal.scaled_nil
  rw [List.append_nil] at hread
  obtain ⟨d, es, rfl⟩ := List.exists_cons_of_ne_nil hne
  have hdigit := (digits_cons.1 hds).1
  have hplus : d ≠ '+' := by
    rintro rfl
    exact absurd hdigit (by decide)
  have hminus : d ≠ '-' := by
    rintro rfl
    exact absurd hdigit (by decide)
  rcases hcs with ⟨rfl | rfl, rfl⟩ | ⟨-, rfl, rfl⟩
  · refine ⟨?_, onSide_natAbs (k := ofDigits (d :: es)) (by simp [onSide, hminus])⟩
    rw [readLiteral, if_neg hminus, if_neg hplus, readUnsigned_of_read hread]
    simp [hminus]
  · refine ⟨?_, onSide_natAbs (k := ofDigits (d :: es)) (by simp [onSide])⟩
    rw [readLiteral, if_neg (by decide), if_pos rfl, readUnsigned_of_read hread]
    simp
  · refine ⟨?_, onSide_natAbs (k := ofDigits (d :: es)) (by simp [onSide])⟩
    rw [readLiteral, if_pos rfl, readUnsigned_of_read hread]
    simp

end Binary

end PointSum.Number
