import PointSum.Proofs.Number.Minimal
import PointSum.Proofs.Point.Total

/-!
# Shortest texts of points

* `IsShortestText a cs` : `cs` is a plain literal that is read as `a`; no decimal number that is read as `a` has fewer
  significant digits, and none with as many is closer to `a`;
* `isShortestText_render` : the text of a finite number that is not zero is one, `significantDigits_literal` : and the
  literal form has the same significant digits;
* `text_isShortest` : so the texts of the coordinates in the text of a point are shortest texts.
-/

namespace PointSum

set_option autoImplicit false

open Number

variable {f : BinaryFormat}

namespace Number.Binary

variable {a : Binary f} {cs : List Char} {d k : ℤ}

/-- The text is a literal in position, with nothing superfluous, whose number is rounded to `a`. Any decimal number
`d * 10 ^ k` that is rounded to `a` has at least as many significant digits, and is not closer to `a` if it has as
many. -/
def IsShortestText (a : Binary f) (cs : List Char) : Prop :=
  ∃ l : DecimalLiteral, cs = l.text ∧ l.IsPlain ∧ Rounds l.value a ∧
    ∀ d k : ℤ, Rounds (d * 10 ^ k) a →
      (significantDigits cs).length ≤ precision d.natAbs ∧
      (precision d.natAbs = (significantDigits cs).length → |a.value - l.value| ≤ |a.value - d * 10 ^ k|)

/-! ## Decimal numbers that are read as the number -/

theorem mul_pow_eq_toSide (d k : ℤ) : (d : ℚ) * 10 ^ k = toSide (d < 0) (⟨d.natAbs, k⟩ : Decimal).value := by
  rw [Decimal.value, ← toSide_mul, toSide_natAbs]

/-- What is rounded to the number has its magnitude. -/
theorem Rounds.magnitude_natAbs (h : Rounds (d * 10 ^ k) a) : (⟨d.natAbs, k⟩ : Decimal).magnitude f = a.magnitude := by
  rw [mul_pow_eq_toSide] at h
  exact (Decimal.rounds_toBinary _ _).magnitude_eq h

/-- What is rounded to a number that is not zero is on its side. -/
theorem Rounds.abs_sub (h : Rounds (d * 10 ^ k) a) (hne : a.magnitude ≠ 0) :
    |a.value - d * 10 ^ k| = |f.units a.magnitude * f.unit - (⟨d.natAbs, k⟩ : Decimal).value| := by
  have hd : 0 < d.natAbs := by
    refine Nat.pos_of_ne_zero fun hzero => hne ?_
    rw [← h.magnitude_natAbs, hzero]
    rfl
  have hpos : 0 < (⟨d.natAbs, k⟩ : Decimal).value :=
    mul_pos (by exact_mod_cast hd) (zpow_pos (by norm_num) _)
  rw [mul_pow_eq_toSide] at h ⊢
  have hv : toSide (d < 0) (⟨d.natAbs, k⟩ : Decimal).value ≠ 0 := by
    rw [← abs_pos, abs_toSide]
    exact abs_pos.2 hpos.ne'
  have hsign : a.negative = decide (d < 0) := by
    rw [Bool.eq_iff_iff, h.sign hv, toSide_neg_iff hpos]
  rw [value_eq_toSide, hsign, abs_toSide_sub]

/-! ## The text of a number -/

theorem render_of_isFinite (l : Layout) (h : a.isFinite) :
    a.render l = (if a.negative then ['-'] else []) ++ (shortest f a.magnitude).render l := by
  have hm := isFinite_iff.1 h
  rw [render, if_neg (by rw [isNaN_iff]; omega), if_neg (by rw [isInfinite_iff]; omega)]

theorem digits_shortest_ne_zero (h : a.isFinite) (hne : a.magnitude ≠ 0) : (shortest f a.magnitude).digits ≠ 0 := by
  intro hzero
  have hread := magnitude_shortest (isFinite_iff.1 h).le
  rw [Decimal.magnitude, if_pos hzero] at hread
  exact hne hread.symm

/-- The plain text of a decimal number that is not zero is a plain literal of its value. -/
theorem exists_plain_render (negative : Bool) {d : Decimal} (h : d.digits ≠ 0) :
    ∃ l : DecimalLiteral, l.text = (if negative then ['-'] else []) ++ d.render .plain ∧ l.IsPlain ∧
      l.value = toSide negative d.value := by
  have hstrip : stripZeros (decimal d.digits) =
      ((stripZeros (decimal d.digits)).1, (stripZeros (decimal d.digits)).2) := rfl
  have hvalue : (⟨ofDigits (stripZeros (decimal d.digits)).1, d.exponent + (stripZeros (decimal d.digits)).2⟩ :
      Decimal).value = d.value := by
    rw [← Decimal.value_mul_pow, ofDigits_stripZeros, ofDigits_decimal]
  have hpositional : Layout.plain.isPositional d.lead = true := rfl
  rw [Decimal.render_of_stripZeros .plain h hstrip, if_pos hpositional, ← hvalue]
  exact exists_plain negative (significant_stripZeros h) _

theorem isShortestText_render (h : a.isFinite) (hvalue : a.value ≠ 0) : IsShortestText a (a.render .plain) := by
  have hne : a.magnitude ≠ 0 := fun hzero => hvalue (value_eq_zero_iff.2 hzero)
  have hm := (isFinite_iff.1 h).le
  have hdigits := digits_shortest_ne_zero h hne
  have hcount : significantDigits (a.render .plain) = significantDigits (decimal (shortest f a.magnitude).digits) := by
    rw [render_of_isFinite .plain h]
    exact significantDigits_render _ _ hdigits
  obtain ⟨l, htext, hplain, hl⟩ := exists_plain_render a.negative hdigits
  have hself : (shortest f a.magnitude).toBinary f a.negative = a := by
    obtain ⟨negative, magnitude, hlt⟩ := a
    simp only [Decimal.toBinary, Binary.mk.injEq, true_and]
    exact magnitude_shortest hm
  have hrounds : Rounds l.value a := by
    have := Decimal.rounds_toBinary (f := f) a.negative (shortest f a.magnitude)
    rwa [hself, ← hl] at this
  have hdistance : |a.value - l.value| = |f.units a.magnitude * f.unit - (shortest f a.magnitude).value| := by
    rw [hl, value_eq_toSide, abs_toSide_sub]
  refine ⟨l, (render_of_isFinite .plain h).trans htext.symm, hplain, hrounds, fun d k hd => ?_⟩
  obtain ⟨hminimal, hclosest⟩ := shortest_minimal hne hm hd.magnitude_natAbs
  rw [hcount, hdistance, hd.abs_sub hne]
  exact ⟨hminimal, hclosest⟩

theorem significantDigits_literal (h : a.isFinite) (hvalue : a.value ≠ 0) :
    significantDigits (a.render .literal) = significantDigits (a.render .plain) := by
  have hne : a.magnitude ≠ 0 := fun hzero => hvalue (value_eq_zero_iff.2 hzero)
  have hdigits := digits_shortest_ne_zero h hne
  rw [render_of_isFinite .plain h, render_of_isFinite .literal h, significantDigits_render _ _ hdigits,
    significantDigits_render _ _ hdigits]

end Number.Binary

/-! ## Points -/

/-- In the text of a point the coordinates that are finite and not zero have shortest texts, and in its literal form
they have the same significant digits. -/
theorem text_isShortest (p : Point (Binary f)) :
    ∃ texts literals : Axis → List Char,
      p.text = "(" ++ .ofList (texts .x) ++ ", " ++ .ofList (texts .y) ++ ")" ∧
      p.literal = "Point \x7b x: " ++ .ofList (literals .x) ++ ", y: " ++ .ofList (literals .y) ++ " \x7d" ∧
      ∀ axis, (p.coordinate axis).isFinite → (p.coordinate axis).value ≠ 0 →
        (p.coordinate axis).IsShortestText (texts axis) ∧
        significantDigits (literals axis) = significantDigits (texts axis) := by
  refine ⟨fun axis => (p.coordinate axis).render .plain, fun axis => (p.coordinate axis).render .literal, ?_, rfl,
    fun axis hfinite hvalue => ⟨Binary.isShortestText_render hfinite hvalue,
      Binary.significantDigits_literal hfinite hvalue⟩⟩
  rw [← String.toList_inj]
  simp [Point.text, Point.coordinate, Scalar.text]

/-- A tenth, and the negative of the number nearest to `10 ^ 16`. -/
def samplePoint : Point (Binary .single) := ⟨⟨false, 0x3dcccccd, by decide⟩, ⟨true, 0x5a0e1bca, by decide⟩⟩

theorem text_isShortest_sample :
    (∀ axis, (samplePoint.coordinate axis).isFinite) ∧ (∀ axis, (samplePoint.coordinate axis).value ≠ 0) ∧
      samplePoint.text = "(0.1, -10000000000000000)" ∧ samplePoint.literal = "Point \x7b x: 0.1, y: -1e16 \x7d" ∧
      ∃ texts literals : Axis → List Char,
        samplePoint.text = "(" ++ .ofList (texts .x) ++ ", " ++ .ofList (texts .y) ++ ")" ∧
        samplePoint.literal =
          "Point \x7b x: " ++ .ofList (literals .x) ++ ", y: " ++ .ofList (literals .y) ++ " \x7d" ∧
        ∀ axis, (samplePoint.coordinate axis).IsShortestText (texts axis) ∧
          significantDigits (literals axis) = significantDigits (texts axis) := by
  have hfinite : ∀ axis, (samplePoint.coordinate axis).isFinite := by
    rintro (_ | _) <;> decide
  have hvalue : ∀ axis, (samplePoint.coordinate axis).value ≠ 0 := by
    intro axis
    rw [ne_eq, Binary.value_eq_zero_iff]
    cases axis <;> decide
  obtain ⟨texts, literals, htext, hliteral, hshortest⟩ := text_isShortest samplePoint
  exact ⟨hfinite, hvalue, by decide +kernel, by decide +kernel, texts, literals, htext, hliteral,
    fun axis => hshortest axis (hfinite axis) (hvalue axis)⟩

end PointSum
