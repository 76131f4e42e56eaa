import PointSum.Number.Layout
import PointSum.Proofs.Number.Layout

/-!
# The shortest decimal number reads back

* `magnitude_shorten`, `magnitude_shortest` : leaving out digits never changes what is read back;
* `lead_shortest` : bounds on the exponent of the leading digit;
* `readLiteral_render` : a binary number in any layout is read as itself, a NaN as a NaN. For a layout with exponents
  the format has to be `Moderate`, with exponents below the bound of the reader.
-/

namespace PointSum.Number

set_option autoImplicit false

variable {f : BinaryFormat} {m exact : Nat}

/-! ## Leaving out digits -/

theorem magnitude_shorten (h : (⟨exact, -(f.unitExponent : Int)⟩ : Decimal).magnitude f = m) (place : Nat) :
    (shorten f m exact place).magnitude f = m := by
  induction place with
  | zero => exact h
  | succ place ih =>
    rw [shorten]
    split
    · next hbelow =>
      rw [Bool.and_eq_true, beq_iff_eq] at hbelow
      exact hbelow.1
    · split
      · next habove => exact beq_iff_eq.1 habove
      · exact ih

/-- The shortest decimal number is read back as the magnitude that it was made for. -/
theorem magnitude_shortest (h : m ≤ f.infinity) : (shortest f m).magnitude f = m :=
  magnitude_shorten (Decimal.magnitude_exact h) _

theorem shorten_bounds (m exact place : Nat) :
    -(f.unitExponent : Int) ≤ (shorten f m exact place).exponent ∧
      (shorten f m exact place).exponent ≤ place - f.unitExponent ∧
      (shorten f m exact place).digits ≤ exact + 1 := by
  induction place with
  | zero => simp [shorten]
  | succ place ih =>
    have hdiv := Nat.div_le_self exact (10 ^ (place + 1))
    rw [shorten]
    have hexp : -(f.unitExponent : Int) ≤ (place + 1 : Nat) - (f.unitExponent : Int) := by omega
    split
    · exact ⟨hexp, le_rfl, Nat.le_succ_of_le hdiv⟩
    · split
      · exact ⟨hexp, le_rfl, Nat.succ_le_succ hdiv⟩
      · exact ⟨ih.1, by push_cast; omega, ih.2.2⟩

theorem exact_lt (h : m < f.infinity) :
    f.units m * 5 ^ f.unitExponent < 10 ^ (f.exponentLimit + f.unitExponent) := by
  have hunits := BinaryFormat.units_strictMono (f := f) h
  rw [BinaryFormat.units_infinity] at hunits
  calc f.units m * 5 ^ f.unitExponent < 2 ^ (f.exponentLimit + f.unitExponent) * 5 ^ f.unitExponent :=
        Nat.mul_lt_mul_of_pos_right hunits (by positivity)
    _ = 2 ^ f.exponentLimit * (2 * 5) ^ f.unitExponent := by rw [Nat.mul_pow]; ring
    _ ≤ 10 ^ f.exponentLimit * 10 ^ f.unitExponent :=
        Nat.mul_le_mul_right _ (Nat.pow_le_pow_left (by decide) _)
    _ = 10 ^ (f.exponentLimit + f.unitExponent) := (Nat.pow_add ..).symm

theorem decimal_length_le {n k : Nat} (hk : 0 < k) (h : n < 10 ^ k) : (decimal n).length ≤ k :=
  (Nat.length_toDigits_le_iff (by decide) hk).2 h

theorem lead_shortest (h : m < f.infinity) :
    -(f.unitExponent : Int) ≤ (shortest f m).lead ∧
      (shortest f m).lead < 2 * f.exponentLimit + f.unitExponent := by
  have hlimit := BinaryFormat.two_le_exponentLimit (f := f)
  have hexact := exact_lt h
  obtain ⟨hlow, hhigh, hdigits⟩ :=
    shorten_bounds (f := f) m (f.units m * 5 ^ f.unitExponent) ((decimal (f.units m * 5 ^ f.unitExponent)).length - 1)
  rw [← shortest] at hlow hhigh hdigits
  have hlen := decimal_length_le (by omega) hexact
  have hpos := decimal_length_pos (shortest f m).digits
  have hlen' : (decimal (shortest f m).digits).length ≤ f.exponentLimit + f.unitExponent + 1 := by
    refine decimal_length_le (by omega) ?_
    rw [Nat.pow_succ]
    omega
  unfold Decimal.lead
  omega

/-- The exponents of the format stay below the bound of the reader of exponents. -/
def BinaryFormat.Moderate (f : BinaryFormat) : Prop := 2 * f.exponentLimit + f.unitExponent ≤ 0x10000

theorem moderate_single : BinaryFormat.single.Moderate := by unfold BinaryFormat.Moderate; decide

theorem moderate_double : BinaryFormat.double.Moderate := by unfold BinaryFormat.Moderate; decide

/-! ## Reading back -/

namespace Binary

theorem readLiteral_sign (negative : Bool) {body : List Char} (h : ∃ c cs, body = c :: cs ∧ c ≠ '+' ∧ c ≠ '-') :
    readLiteral f ((if negative then ['-'] else []) ++ body) = readUnsigned f negative body := by
  obtain ⟨c, cs, rfl, hplus, hminus⟩ := h
  cases negative with
  | true => rfl
  | false => simp [readLiteral, hplus, hminus]

theorem read_word_eq_none {c : Char} {cs : List Char} (hc : ¬ Decimal.IsLiteralChar c) :
    Decimal.read (c :: cs) = none := by
  cases h : Decimal.read (c :: cs) with
  | none => rfl
  | some d => exact absurd (Decimal.mem_of_read h List.mem_cons_self) hc

theorem readUnsigned_inf (negative : Bool) : readUnsigned f negative "inf".toList = .ok (infinity negative) := by
  have h : Decimal.read "inf".toList = none := read_word_eq_none (by simp [Decimal.IsLiteralChar]; decide)
  rw [readUnsigned, h]
  rfl

theorem readLiteral_nan : readLiteral f "NaN".toList = .ok nan := by
  have h : Decimal.read "NaN".toList = none := read_word_eq_none (by simp [Decimal.IsLiteralChar]; decide)
  have hsign : readLiteral f "NaN".toList = readUnsigned f false "NaN".toList := rfl
  rw [hsign, readUnsigned, h]
  rfl

theorem readUnsigned_of_read {negative : Bool} {cs : List Char} {d : Decimal} (h : Decimal.read cs = some d) :
    readUnsigned f negative cs = .ok (d.toBinary f negative) := by
  rw [readUnsigned, h]

/-- The body of a finite number, behind its sign, is a decimal literal of the value of the shortest number. -/
theorem read_render_shortest (l : Layout) (hl : l.positional = none ∨ f.Moderate) (hm : m < f.infinity) :
    ∃ d, Decimal.read ((shortest f m).render l) = some d ∧ d.value = (shortest f m).value := by
  obtain ⟨hlow, hhigh⟩ := lead_shortest hm
  refine Decimal.read_render l (shortest f m) fun hpos => ?_
  rcases hl with hl | hl
  · rw [Layout.isPositional, hl] at hpos
    cases hpos
  · have := BinaryFormat.two_le_exponentLimit (f := f)
    unfold BinaryFormat.Moderate at hl
    omega

/-- The same bits, or both a NaN. -/
def SameUpToNaN (a b : Binary f) : Prop := a = b ∨ a.isNaN ∧ b.isNaN

/-- A binary number in any layout is read as itself, bit for bit, and a NaN as a NaN. -/
theorem readLiteral_render (l : Layout) (hl : l.positional = none ∨ f.Moderate) (a : Binary f) :
    ∃ b, readLiteral f (a.render l) = .ok b ∧ SameUpToNaN a b := by
  unfold render
  by_cases hnan : a.isNaN
  · rw [if_pos hnan]
    exact ⟨nan, readLiteral_nan, .inr ⟨hnan, nan_isNaN⟩⟩
  · rw [if_neg hnan]
    by_cases hinf : a.isInfinite
    · simp only [if_pos hinf]
      refine ⟨infinity a.negative, ?_, .inl ?_⟩
      · have hsign : ∃ c cs, "inf".toList = c :: cs ∧ c ≠ '+' ∧ c ≠ '-' := ⟨'i', _, rfl, by decide, by decide⟩
        rw [readLiteral_sign _ hsign, readUnsigned_inf]
      · obtain ⟨negative, magnitude, hlt⟩ := a
        obtain rfl : magnitude = f.infinity := beq_iff_eq.1 hinf
        rfl
    · have hm : a.magnitude < f.infinity := by
        simp only [isNaN, isInfinite, decide_eq_true_eq, beq_iff_eq] at hnan hinf
        omega
      obtain ⟨d, hd, hvalue⟩ := read_render_shortest l hl hm
      simp only [if_neg hinf]
      refine ⟨d.toBinary f a.negative, ?_, .inl ?_⟩
      · rw [readLiteral_sign _ (Decimal.ne_sign_of_read hd), readUnsigned_of_read hd]
      · obtain ⟨negative, magnitude, hlt⟩ := a
        simp only [Decimal.toBinary, Binary.mk.injEq, true_and]
        rw [Decimal.magnitude_congr hvalue, magnitude_shortest (Nat.le_of_lt hm)]

end Binary

end PointSum.Number
