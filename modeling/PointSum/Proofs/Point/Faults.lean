import PointSum.Proofs.Number.WordFault
import PointSum.Proofs.Point.Grammar

/-!
# Why a text is no point

A text that is no point has one fault: there is no comma to divide it, or the first of its coordinates that is no
number is none.

* `coordinateTexts_of_split`, `coordinateTexts_eq_none` : the texts of the coordinates around the first comma;
* `read_of_noComma`, `read_split_eq_error` : the fault, in the order in which the reader looks for one;
* `exists_read_iff` : a text is read as a word if it is a numeral of the format;
* `read_integers_fault` : the sentences for a text that is no point of words.
-/

namespace PointSum

set_option autoImplicit false

open Text Number

variable {raw : String} {cs x y : List Char} {e : PointFault}

/-! ## The texts of the coordinates -/

theorem splitAtComma_eq_none (h : ',' ∉ cs) : splitAtComma cs = none := by
  cases hsplit : splitAtComma cs with
  | none => rfl
  | some xy =>
    obtain ⟨rfl, -⟩ := splitAtComma_eq_some_iff.1 hsplit
    simp at h

theorem coordinateTexts_of_split (h : unwrapParentheses (trim cs) = x ++ ',' :: y) (hx : ',' ∉ x) :
    coordinateTexts cs = some (trim x, trim y) := by
  rw [coordinateTexts, splitAtComma_eq_some_iff.2 ⟨h, hx⟩]
  rfl

theorem coordinateTexts_eq_none (h : ',' ∉ unwrapParentheses (trim cs)) : coordinateTexts cs = none := by
  rw [coordinateTexts, splitAtComma_eq_none h]
  rfl

/-! ## The fault -/

section Scalars

variable {α : Type} [Scalar α]

theorem read_of_noComma (h : coordinateTexts raw.toList = none) : Point.read α raw = .error (.noComma raw) := by
  unfold Point.read
  rw [h]

/-- The first coordinate is looked at first; only where it is a number is the fault that of the second one. -/
theorem read_split_eq_error (hxy : coordinateTexts raw.toList = some (x, y)) (h : Point.read α raw = .error e) :
    (∃ cause, Scalar.read (α := α) x = .error cause ∧ e = .coordinate .x raw cause) ∨
      (∃ a, Scalar.read (α := α) x = .ok a) ∧
        ∃ cause, Scalar.read (α := α) y = .error cause ∧ e = .coordinate .y raw cause := by
  unfold Point.read at h
  simp only [hxy] at h
  cases hx : Scalar.read (α := α) x with
  | error cause =>
    simp only [hx, Except.error.injEq] at h
    exact .inl ⟨cause, rfl, h.symm⟩
  | ok a =>
    cases hy : Scalar.read (α := α) y with
    | error cause =>
      simp only [hx, hy, Except.error.injEq] at h
      exact .inr ⟨⟨a, rfl⟩, cause, rfl, h.symm⟩
    | ok b =>
      simp only [hx, hy] at h
      cases h

end Scalars

/-! ## Points of words -/

variable {f : WordFormat}

theorem exists_read_iff : (∃ a, Word.read f cs = .ok a) ↔ ∃ n, Numeral f cs n := by
  constructor
  · rintro ⟨a, ha⟩
    exact ⟨a.toInt, Word.read_eq_ok_iff.1 ha⟩
  · rintro ⟨n, hn⟩
    refine ⟨⟨BitVec.ofInt f.width n⟩, Word.read_eq_ok_iff.2 ?_⟩
    rwa [Word.toInt_ofInt hn.holds]

theorem not_numeral_of_read {cause : ReadFault} (h : Word.read f cs = .error cause) : ¬ ∃ n, Numeral f cs n := by
  rw [← exists_read_iff, h]
  simp

/-! ## The sentences -/

theorem chain_x (raw : String) (cause : ReadFault) : (PointFault.coordinate .x raw cause).chain =
    ["invalid x coordinate in `" ++ raw ++ "`", cause.message] := rfl

theorem chain_y (raw : String) (cause : ReadFault) : (PointFault.coordinate .y raw cause).chain =
    ["invalid y coordinate in `" ++ raw ++ "`", cause.message] := rfl

theorem sentence_x_ne_y (raw : String) :
    "invalid x coordinate in `" ++ raw ++ "`" ≠ "invalid y coordinate in `" ++ raw ++ "`" := by
  intro h
  rw [String.append_left_inj, String.append_left_inj] at h
  revert h
  decide

/-- The sentences for a text that is no point of words. There is a single one if no comma is left when blank ends and
an enclosing pair of parentheses are taken off. Otherwise the first of two names the axis, which is the first axis
unless the text before the first comma is a numeral, and the second one explains why the text of that coordinate is
none. The text stands in them as it was given. -/
theorem read_integers_fault (f : WordFormat) (raw : String) (e : PointFault)
    (h : Point.read (Word f) raw = .error e) :
    ∃ inner, Unwrapped (trim raw.toList) inner ∧
      (e.chain = ["expected a point as X,Y, got `" ++ raw ++ "`"] ↔ ',' ∉ inner) ∧
      ∀ x y, inner = x ++ ',' :: y → ',' ∉ x →
        ((∃ t, e.chain = ["invalid x coordinate in `" ++ raw ++ "`", t]) ↔ ¬ ∃ n, Numeral f (trim x) n) ∧
        ((∃ t, e.chain = ["invalid y coordinate in `" ++ raw ++ "`", t]) ↔ ∃ n, Numeral f (trim x) n) ∧
        (∀ t, e.chain = ["invalid x coordinate in `" ++ raw ++ "`", t] → Explains f (trim x) t) ∧
        ∀ t, e.chain = ["invalid y coordinate in `" ++ raw ++ "`", t] →
          (¬ ∃ n, Numeral f (trim y) n) ∧ Explains f (trim y) t := by
  refine ⟨unwrapParentheses (trim raw.toList), unwrapped_unwrapParentheses _, ?_, ?_⟩
  · by_cases hcomma : ',' ∈ unwrapParentheses (trim raw.toList)
    · obtain ⟨x, y, hinner, hx⟩ := List.eq_append_cons_of_mem hcomma
      have hxy := coordinateTexts_of_split hinner hx
      apply iff_of_false
      · rcases read_split_eq_error hxy h with ⟨cause, -, rfl⟩ | ⟨-, cause, -, rfl⟩
        · simp [chain_x]
        · simp [chain_y]
      · exact not_not_intro hcomma
    · rw [read_of_noComma (coordinateTexts_eq_none hcomma)] at h
      cases h
      exact iff_of_true rfl hcomma
  · intro x y hinner hx
    have hxy := coordinateTexts_of_split hinner hx
    rcases read_split_eq_error hxy h with ⟨cause, hcause, rfl⟩ | ⟨hnumeral, cause, hcause, rfl⟩
    · have hnot := not_numeral_of_read hcause
      rw [chain_x]
      refine ⟨iff_of_true ⟨_, rfl⟩ hnot, iff_of_false ?_ hnot, ?_, ?_⟩
      · rintro ⟨t, ht⟩
        exact sentence_x_ne_y raw (List.cons.inj ht).1
      · intro t ht
        cases ht
        exact Word.explains_message hcause
      · intro t ht
        exact absurd (List.cons.inj ht).1 (sentence_x_ne_y raw)
    · have hx := exists_read_iff.1 hnumeral
      rw [chain_y]
      refine ⟨iff_of_false ?_ (not_not_intro hx), iff_of_true ⟨_, rfl⟩ hx, ?_, ?_⟩
      · rintro ⟨t, ht⟩
        exact sentence_x_ne_y raw (List.cons.inj ht).1.symm
      · intro t ht
        exact absurd (List.cons.inj ht).1.symm (sentence_x_ne_y raw)
      · intro t ht
        cases ht
        exact ⟨not_numeral_of_read hcause, Word.explains_message hcause⟩

theorem read_integers_fault_mixed :
    Point.read (Word .int8) " (-1299x , 1,) " = .error (.coordinate .x " (-1299x , 1,) " .tooSmall) ∧
      Unwrapped (trim " (-1299x , 1,) ".toList) "-1299x , 1,".toList ∧
      (¬ ∃ n, Numeral .int8 "-1299x".toList n) ∧
      Explains .int8 "-1299x".toList "number too small to fit in target type" := by
  have hread : Point.read (Word .int8) " (-1299x , 1,) " = .error (.coordinate .x " (-1299x , 1,) " .tooSmall) := by
    decide +kernel
  obtain ⟨inner, hinner, -, hsplit⟩ := read_integers_fault .int8 _ _ hread
  have hin : inner = "-1299x , 1,".toList := by
    rw [← hinner.eq]
    decide +kernel
  subst hin
  have htrim : trim "-1299x ".toList = "-1299x".toList := by decide +kernel
  obtain ⟨hx, -, hexplains, -⟩ := hsplit "-1299x ".toList " 1,".toList (by decide) (by decide)
  rw [htrim] at hx hexplains
  exact ⟨hread, hinner, hx.1 ⟨_, rfl⟩, hexplains _ rfl⟩

end PointSum
