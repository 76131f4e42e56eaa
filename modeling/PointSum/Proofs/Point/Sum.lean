import PointSum.Point
import PointSum.Proofs.Number.Word

/-!
# Sums of points

* `add?_eq_ok_iff`, `add?_eq_error_iff` : the checked sum has both coordinates, or there is an overflow of the first
  axis without one;
* `add?_word_eq_ok_iff`, `add?_word_eq_error_iff` : over words these are sums of integers, and integers that the
  format does not hold; `add_word_eq_ok_iff` : the addition that traps has the same sums;
* `text_word` : the text of a point of words; `add_binary` : points of binary numbers always have a sum.
-/

namespace PointSum.Point

set_option autoImplicit false

open Number

section Scalars

variable {α : Type} [Scalar α] {p q s : Point α}

theorem add?_eq_ok_iff :
    p.add? q = .ok s ↔ Scalar.add? p.x q.x = some s.x ∧ Scalar.add? p.y q.y = some s.y := by
  unfold add?
  cases Scalar.add? p.x q.x with
  | none => simp
  | some x =>
    cases Scalar.add? p.y q.y with
    | none => simp
    | some y =>
      obtain ⟨sx, sy⟩ := s
      simp

/-- The axis reported is the first one without a sum. -/
theorem add?_eq_error_iff {o : Overflow} :
    p.add? q = .error o ↔
      Scalar.add? p.x q.x = none ∧ o = overflow .x p.x q.x ∨
        Scalar.add? p.x q.x ≠ none ∧ Scalar.add? p.y q.y = none ∧ o = overflow .y p.y q.y := by
  unfold add?
  cases Scalar.add? p.x q.x with
  | none => simp [eq_comm]
  | some x => cases Scalar.add? p.y q.y <;> simp [eq_comm]

theorem add_eq_ok_iff : p.add q = .ok s ↔ Scalar.add p.x q.x = .ok s.x ∧ Scalar.add p.y q.y = .ok s.y := by
  unfold add
  cases Scalar.add p.x q.x with
  | error t => simp [bind, Except.bind]
  | ok x =>
    cases Scalar.add p.y q.y with
    | error t => simp [bind, Except.bind]
    | ok y =>
      obtain ⟨sx, sy⟩ := s
      simp [bind, Except.bind, pure, Except.pure]

end Scalars

/-- The text of a point is that of its coordinates, of whatever kind. -/
theorem text_congr {α β : Type} [Scalar α] [Scalar β] {p : Point α} {q : Point β}
    (hx : Scalar.text p.x = Scalar.text q.x) (hy : Scalar.text p.y = Scalar.text q.y) : p.text = q.text := by
  rw [text, text, hx, hy]

section Words

variable {f : WordFormat} {p q s : Point (Word f)}

theorem add?_word_eq_ok_iff :
    p.add? q = .ok s ↔ s.x.toInt = p.x.toInt + q.x.toInt ∧ s.y.toInt = p.y.toInt + q.y.toInt := by
  rw [add?_eq_ok_iff]
  exact and_congr Word.add?_eq_some_iff Word.add?_eq_some_iff

theorem add_word_eq_ok_iff :
    p.add q = .ok s ↔ s.x.toInt = p.x.toInt + q.x.toInt ∧ s.y.toInt = p.y.toInt + q.y.toInt := by
  rw [add_eq_ok_iff]
  exact and_congr Word.add_eq_ok_iff Word.add_eq_ok_iff

/-- Two points of words have a sum if the format holds both sums of integers. -/
theorem exists_add?_word (hx : f.Holds (p.x.toInt + q.x.toInt)) (hy : f.Holds (p.y.toInt + q.y.toInt)) :
    ∃ s, p.add? q = .ok s :=
  ⟨⟨⟨.ofInt f.width (p.x.toInt + q.x.toInt)⟩, ⟨.ofInt f.width (p.y.toInt + q.y.toInt)⟩⟩,
    add?_word_eq_ok_iff.2 ⟨Word.toInt_ofInt hx, Word.toInt_ofInt hy⟩⟩

theorem overflow_word (axis : Axis) (a b : Word f) :
    overflow axis a b = ⟨axis, toString a.toInt, toString b.toInt⟩ :=
  congrArg₂ (Overflow.mk axis) a.ofList_text b.ofList_text

theorem add?_word_eq_error_iff {o : Overflow} :
    p.add? q = .error o ↔
      ¬ f.Holds (p.x.toInt + q.x.toInt) ∧ o = ⟨.x, toString p.x.toInt, toString q.x.toInt⟩ ∨
        f.Holds (p.x.toInt + q.x.toInt) ∧ ¬ f.Holds (p.y.toInt + q.y.toInt) ∧
          o = ⟨.y, toString p.y.toInt, toString q.y.toInt⟩ := by
  have hx : Scalar.add? p.x q.x = none ↔ ¬ f.Holds (p.x.toInt + q.x.toInt) := Word.add?_eq_none_iff
  have hy : Scalar.add? p.y q.y = none ↔ ¬ f.Holds (p.y.toInt + q.y.toInt) := Word.add?_eq_none_iff
  rw [add?_eq_error_iff, hx, hy, ne_eq, hx, not_not, overflow_word, overflow_word]

theorem text_word (p : Point (Word f)) :
    p.text = "(" ++ toString p.x.toInt ++ ", " ++ toString p.y.toInt ++ ")" := by
  rw [← p.x.ofList_text, ← p.y.ofList_text]
  unfold text
  simp only [String.ofList_append]
  rfl

end Words

/-- Points of binary numbers always have a sum. -/
@[simp] theorem add_binary {f : BinaryFormat} (p q : Point (Binary f)) :
    p.add q = .ok ⟨p.x.add q.x, p.y.add q.y⟩ := rfl

end PointSum.Point
