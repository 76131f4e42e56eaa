import PointSum.Proofs.Number.DecimalLiteral
import PointSum.Proofs.Point.FloatText

/-!
# Points of literals

* `read_eq_error_x_iff`, `read_eq_error_y_iff` : whose fault it is that a pair of texts is not read as a point;
* `read_literals_iff` : a pair of texts is read as a point of binary numbers if and only if both are literals, and then
  the coordinates are the numbers that the literals denote;
* `read_longLiteral` : a literal with so many digits that not all digits of its exponent count, and the number that is
  read instead of the one it denotes.
-/

namespace PointSum

set_option autoImplicit false

open Text Number

section Faults

variable {α : Type} [Scalar α] {raw : String} {x y : List Char}

theorem read_eq_error_x_iff (hxy : coordinateTexts raw.toList = some (x, y)) :
    (∃ cause, Point.read α raw = .error (.coordinate .x raw cause)) ↔ ¬ ∃ a : α, Scalar.read x = .ok a := by
  unfold Point.read
  rw [hxy]
  cases hx : Scalar.read (α := α) x with
  | error cause => simp [hx]
  | ok a => cases hy : Scalar.read (α := α) y <;> simp [hx, hy]

theorem read_eq_error_y_iff (hxy : coordinateTexts raw.toList = some (x, y)) :
    (∃ cause, Point.read α raw = .error (.coordinate .y raw cause)) ↔
      (∃ a : α, Scalar.read x = .ok a) ∧ ¬ ∃ b : α, Scalar.read y = .ok b := by
  unfold Point.read
  rw [hxy]
  cases hx : Scalar.read (α := α) x with
  | error cause => simp [hx]
  | ok a => cases hy : Scalar.read (α := α) y <;> simp [hx, hy]

theorem read_isOk_iff (hxy : coordinateTexts raw.toList = some (x, y)) :
    (∃ p, Point.read α raw = .ok p) ↔ (∃ a : α, Scalar.read x = .ok a) ∧ ∃ b : α, Scalar.read y = .ok b := by
  constructor
  · rintro ⟨p, hp⟩
    obtain ⟨x', y', hxy', hx, hy⟩ := read_eq_ok_iff.1 hp
    rw [hxy] at hxy'
    cases hxy'
    exact ⟨⟨_, hx⟩, _, hy⟩
  · rintro ⟨⟨a, ha⟩, b, hb⟩
    exact ⟨⟨a, b⟩, read_eq_ok_iff.2 ⟨x, y, hxy, ha, hb⟩⟩

end Faults

variable {raw : String} {x y : List Char}

/-- A pair of texts is read as a point of binary numbers if and only if both are literals, and the first that is none
is the fault. The coordinates are the numbers that the literals denote: a decimal literal is rounded once, to the format
that is read, from all of its digits. -/
theorem read_literals_iff (f : BinaryFormat) (hraw : Written raw.toList x y) (hx : Tight x) (hy : Tight y)
    (hcomma : ',' ∉ x) :
    ((∃ p, Point.read (Binary f) raw = .ok p) ↔ IsLiteral x ∧ IsLiteral y) ∧
    ((∃ cause, Point.read (Binary f) raw = .error (.coordinate .x raw cause)) ↔ ¬ IsLiteral x) ∧
    ((∃ cause, Point.read (Binary f) raw = .error (.coordinate .y raw cause)) ↔ IsLiteral x ∧ ¬ IsLiteral y) ∧
    ∀ p, Point.read (Binary f) raw = .ok p → Binary.Denotes x p.x ∧ Binary.Denotes y p.y := by
  have hxy := coordinateTexts_eq_some_iff.2 ⟨hraw, hx, hy, hcomma⟩
  have hliteral : ∀ cs, (∃ a : Binary f, Scalar.read cs = .ok a) ↔ IsLiteral cs :=
    fun _ => Binary.readLiteral_isOk_iff
  refine ⟨?_, ?_, ?_, fun p hp => ?_⟩
  · rw [read_isOk_iff hxy, hliteral, hliteral]
  · rw [read_eq_error_x_iff hxy, hliteral]
  · rw [read_eq_error_y_iff hxy, hliteral, hliteral]
  · obtain ⟨x', y', hxy', hpx, hpy⟩ := read_eq_ok_iff.1 hp
    rw [hxy] at hxy'
    cases hxy'
    exact ⟨Binary.denotes_of_readLiteral hpx, Binary.denotes_of_readLiteral hpy⟩

theorem read_literals_underflow :
    Written "(-1.e-0400, +iNf)".toList "-1.e-0400".toList "+iNf".toList ∧ Tight "-1.e-0400".toList ∧
      Tight "+iNf".toList ∧ ',' ∉ "-1.e-0400".toList ∧
      Point.read (Binary .double) "(-1.e-0400, +iNf)" = .ok ⟨.zero true, .infinity false⟩ ∧
      IsLiteral "-1.e-0400".toList ∧ IsLiteral "+iNf".toList ∧
      Binary.Denotes "-1.e-0400".toList (.zero true : Binary .double) ∧
      Binary.Denotes "+iNf".toList (.infinity false : Binary .double) := by
  have hxy : coordinateTexts "(-1.e-0400, +iNf)".toList = some ("-1.e-0400".toList, "+iNf".toList) := by decide +kernel
  have hread : Point.read (Binary .double) "(-1.e-0400, +iNf)" = .ok ⟨.zero true, .infinity false⟩ := by
    decide +kernel
  obtain ⟨hraw, hx, hy, hcomma⟩ := coordinateTexts_eq_some_iff.1 hxy
  obtain ⟨hok, -, -, hdenotes⟩ := read_literals_iff .double hraw hx hy hcomma
  exact ⟨hraw, hx, hy, hcomma, hread, (hok.1 ⟨_, hread⟩).1, (hok.1 ⟨_, hread⟩).2, hdenotes _ hread⟩

/-! ## A literal of many digits -/

namespace Number

/-- The literal of `10 ^ 589824` with 65535 zeros behind the point. Of its exponent the first five digits count, and
what they say is one. -/
def longLiteral : DecimalLiteral where
  sign := []
  whole := ['0']
  fraction := some (List.replicate 65535 '0' ++ ['1'])
  exponent := some ⟨'e', [], "655360".toList, by decide, by decide, by decide, digits_decimal 655360⟩
  digits_whole := digits_replicate_zero 1
  digits_fraction := digits_append.2 ⟨digits_replicate_zero _, digits_decimal 1⟩
  digits_ne_nil := List.cons_ne_nil _ _

theorem ofDigits_longLiteral : ofDigits longLiteral.digits = 1 := by
  have hdigits : longLiteral.digits = List.replicate 1 '0' ++ (List.replicate 65535 '0' ++ ['1']) := rfl
  rw [hdigits, ofDigits_zeros_append, ofDigits_zeros_append]
  rfl

theorem places_longLiteral : longLiteral.places = 65536 := by
  have hplaces : longLiteral.places = (List.replicate 65535 '0' ++ ['1']).length := rfl
  rw [hplaces, List.length_append, List.length_replicate, List.length_singleton]

theorem value_longLiteral : longLiteral.value = 10 ^ 589824 := by
  have hscale : longLiteral.exponent.elim 0 Exponent.value = 655360 := by decide
  rw [DecimalLiteral.value, hscale, DecimalLiteral.scaledBy, ofDigits_longLiteral, places_longLiteral, Nat.cast_one,
    one_mul, show (655360 - (65536 : Nat) : ℤ) = (589824 : Nat) from rfl, zpow_natCast]
  rfl

theorem countedValue_longLiteral : longLiteral.countedValue = 1 := by
  have hscale : longLiteral.exponent.elim 0 Exponent.counted = 65536 := by decide
  rw [DecimalLiteral.countedValue, hscale, DecimalLiteral.scaledBy, ofDigits_longLiteral, places_longLiteral,
    Nat.cast_one, one_mul, show (65536 - (65536 : Nat) : ℤ) = 0 from rfl, zpow_zero]
  rfl

end Number

/-- The number that is read from a literal is not always the one it denotes: of `10 ^ 589824`, written with many zeros
behind the point, it is one and not an infinity. -/
theorem read_longLiteral :
    ∃ p, Point.read (Binary .double) (.ofList (longLiteral.text ++ [',', '0'])) = .ok p ∧
      p.x.toBits = 0x3ff0000000000000 ∧ ¬ Binary.Rounds longLiteral.value p.x := by
  have hdecimal : longLiteral.decimal (longLiteral.exponent.elim 0 Exponent.counted) = ⟨1, 0⟩ := by
    have hscale : longLiteral.exponent.elim 0 Exponent.counted = 65536 := by decide
    rw [hscale, DecimalLiteral.decimal, ofDigits_longLiteral, places_longLiteral]
    rfl
  have hx : Binary.readLiteral .double longLiteral.text = .ok ((⟨1, 0⟩ : Decimal).toBinary .double false) := by
    rw [Binary.readLiteral_text, hdecimal]
    rfl
  have hy : Binary.readLiteral .double ['0'] = .ok (.zero false) := by decide
  have hread := longLiteral.read_body
  have hopen : ¬ Decimal.IsLiteralChar '(' := by simp [Decimal.IsLiteralChar]; decide
  have hzero : ∀ c ∈ ['0'], isBlank c = false := by
    intro c hc
    rw [List.mem_singleton.1 hc]
    decide
  have hxy : coordinateTexts (longLiteral.text ++ [',', '0']) = some (longLiteral.text, ['0']) :=
    coordinateTexts_bare (fun c hc => (Decimal.mem_of_read hread hc).ne)
      (fun hc => hopen (Decimal.mem_of_read hread hc)) hzero
  refine ⟨⟨_, _⟩, read_eq_ok_iff.2 ⟨_, _, (String.toList_ofList ▸ hxy), hx, hy⟩, by decide +kernel, fun h => ?_⟩
  have hone := (Binary.denotes_of_readLiteral hx).rounds_counted longLiteral rfl
  rw [countedValue_longLiteral] at hone
  have hlt := h.finite_iff.1 (hone.finite_iff.2 (abs_one.trans_lt BinaryFormat.one_lt_overflowAt))
  have hlarge : (2 : ℚ) ^ BinaryFormat.double.exponentLimit ≤ 10 ^ 589824 :=
    calc (2 : ℚ) ^ BinaryFormat.double.exponentLimit ≤ 10 ^ BinaryFormat.double.exponentLimit :=
          pow_le_pow_left₀ (by norm_num) (by norm_num) _
      _ ≤ 10 ^ 589824 := pow_le_pow_right₀ (by norm_num) (by decide)
  rw [value_longLiteral, abs_of_nonneg (by positivity)] at hlt
  exact absurd (hlt.trans BinaryFormat.overflowAt_lt) (not_lt.2 hlarge)

end PointSum
