import PointSum.Proofs.Number.Laws
import PointSum.Proofs.Run.Sum

/-!
# Operands in the other order

* `Overflow.swap` : the overflow of the operands in the other order;
* `Point.add_swap`, `Point.add?_swap` : where the additions of coordinates do not depend on the order, those of points
  do not either, but that an overflow names its operands as they stand;
* `Mode.Reads` : the texts that are points in a mode; `sumText_int_swap`, `sumText_float_swap` : two such texts;
* `sum_commutes` : points of every kind of scalar, and texts in either mode.
-/

namespace PointSum

set_option autoImplicit false

open Number Settings

/-- The overflow of the operands in the other order. -/
def Overflow.swap (o : Overflow) : Overflow := ⟨o.axis, o.rhs, o.lhs⟩

/-- The text is a point in the mode. -/
def Settings.Mode.Reads : Mode → String → Prop
  | .int, raw => ∃ p, Point.read (Word .int64) raw = .ok p
  | .float, raw => ∃ p, Point.read (Binary .double) raw = .ok p

/-! ## Points -/

section Scalars

variable {α : Type} [Scalar α]

theorem Point.add_swap (h : ∀ a b : α, Scalar.add a b = Scalar.add b a) (p q : Point α) : p.add q = q.add p := by
  unfold add
  rw [h p.x, h p.y]

theorem Point.add?_swap (h : ∀ a b : α, Scalar.add? a b = Scalar.add? b a) (p q : Point α) :
    q.add? p = (p.add? q).mapError Overflow.swap := by
  unfold add?
  rw [h q.x, h q.y]
  cases Scalar.add? p.x q.x with
  | none => rfl
  | some x => cases Scalar.add? p.y q.y <;> rfl

end Scalars

/-! ## Texts -/

variable {lhs rhs : String}

theorem sumText_int_swap (hlhs : Mode.int.Reads lhs) (hrhs : Mode.int.Reads rhs) :
    (∃ t, sumText .int lhs rhs = .ok t ∧ sumText .int rhs lhs = .ok t) ∨
      ∃ o, sumText .int lhs rhs = .error (.overflow o) ∧ sumText .int rhs lhs = .error (.overflow o.swap) := by
  obtain ⟨p, hp⟩ := hlhs
  obtain ⟨q, hq⟩ := hrhs
  have hswap := Point.add?_swap Word.add?_comm p q
  cases hsum : p.add? q with
  | ok s =>
    rw [hsum] at hswap
    exact .inl ⟨s.text, sumText_int_eq_ok_iff.2 ⟨p, q, s, hp, hq, hsum, rfl⟩,
      sumText_int_eq_ok_iff.2 ⟨q, p, s, hq, hp, hswap, rfl⟩⟩
  | error o =>
    rw [hsum] at hswap
    exact .inr ⟨o, sumText_int_eq_error_iff.2 (.inr ⟨p, q, o, hp, hq, hsum, rfl⟩),
      sumText_int_eq_error_iff.2 (.inr ⟨q, p, o.swap, hq, hp, hswap, rfl⟩)⟩

theorem add_swap_binary {f : BinaryFormat} (p q : Point (Binary f)) : p.add q = q.add p :=
  Point.add_swap (fun a b => congrArg Except.ok (a.add_comm b)) p q

theorem sumText_float_swap (hlhs : Mode.float.Reads lhs) (hrhs : Mode.float.Reads rhs) :
    ∃ t, sumText .float lhs rhs = .ok t ∧ sumText .float rhs lhs = .ok t := by
  obtain ⟨p, hp⟩ := hlhs
  obtain ⟨q, hq⟩ := hrhs
  have hsum := Point.add_binary p q
  have hswap := (add_swap_binary q p).trans hsum
  exact ⟨_, sumText_float_eq_ok_iff.2 ⟨p, q, _, hp, hq, hsum, rfl⟩,
    sumText_float_eq_ok_iff.2 ⟨q, p, _, hq, hp, hswap, rfl⟩⟩

/-- Two points have the same sum in both orders, by the addition that traps: the same bits, or the same trap. By the
checked addition too, and where there is no sum on an axis the overflow names that axis in both orders, and the
operands as they stand. In either mode two texts that are points have the same text as their sum in both orders, or
overflow on the same axis in both. -/
theorem sum_commutes :
    (∀ (f : WordFormat) (p q : Point (Word f)),
      p.add q = q.add p ∧ q.add? p = (p.add? q).mapError Overflow.swap) ∧
    (∀ (f : BinaryFormat) (p q : Point (Binary f)),
      p.add q = q.add p ∧ q.add? p = (p.add? q).mapError Overflow.swap) ∧
    ∀ mode lhs rhs, mode.Reads lhs → mode.Reads rhs →
      (∃ t, sumText mode lhs rhs = .ok t ∧ sumText mode rhs lhs = .ok t) ∨
        ∃ o, sumText mode lhs rhs = .error (.overflow o) ∧ sumText mode rhs lhs = .error (.overflow o.swap) := by
  refine ⟨fun f p q => ⟨?_, ?_⟩, fun f p q => ⟨add_swap_binary p q, ?_⟩, fun mode lhs rhs hlhs hrhs => ?_⟩
  · exact Point.add_swap Word.add_comm p q
  · exact Point.add?_swap Word.add?_comm p q
  · exact Point.add?_swap (fun a b => congrArg some (a.add_comm b)) p q
  · cases mode with
    | int => exact sumText_int_swap hlhs hrhs
    | float => exact .inl (sumText_float_swap hlhs hrhs)

/-- An overflow on the second axis, and a float sum that is an infinity beside a sum of zeros of either sign. -/
theorem sum_commutes_overflow :
    (Mode.int.Reads "1,9223372036854775807" ∧ Mode.int.Reads "(+0002, 1)" ∧
      sumText .int "1,9223372036854775807" "(+0002, 1)" = .error (.overflow ⟨.y, "9223372036854775807", "1"⟩) ∧
      sumText .int "(+0002, 1)" "1,9223372036854775807" = .error (.overflow ⟨.y, "1", "9223372036854775807"⟩)) ∧
    Mode.float.Reads "1e308,-0" ∧ Mode.float.Reads "1e308,0" ∧
      sumText .float "1e308,-0" "1e308,0" = .ok "(inf, 0)" ∧ sumText .float "1e308,0" "1e308,-0" = .ok "(inf, 0)" := by
  have hlhs : Mode.int.Reads "1,9223372036854775807" := ⟨⟨⟨1#64⟩, ⟨9223372036854775807#64⟩⟩, by decide +kernel⟩
  have hrhs : Mode.int.Reads "(+0002, 1)" := ⟨⟨⟨2#64⟩, ⟨1#64⟩⟩, by decide +kernel⟩
  have hsum : sumText .int "1,9223372036854775807" "(+0002, 1)" =
      .error (.overflow ⟨.y, "9223372036854775807", "1"⟩) := by decide +kernel
  have hbelow : Mode.float.Reads "1e308,-0" :=
    ⟨⟨⟨false, 0x7FE1CCF385EBC8A0, by decide⟩, .zero true⟩, by decide +kernel⟩
  have habove : Mode.float.Reads "1e308,0" :=
    ⟨⟨⟨false, 0x7FE1CCF385EBC8A0, by decide⟩, .zero false⟩, by decide +kernel⟩
  have hfloat : sumText .float "1e308,-0" "1e308,0" = .ok "(inf, 0)" := by decide +kernel
  obtain ⟨-, -, hswap⟩ := sum_commutes
  refine ⟨⟨hlhs, hrhs, hsum, ?_⟩, hbelow, habove, hfloat, ?_⟩
  · rcases hswap .int _ _ hlhs hrhs with ⟨t, ht, -⟩ | ⟨o, ho, ho'⟩
    · rw [hsum] at ht
      cases ht
    · rw [hsum] at ho
      cases ho
      exact ho'
  · rcases hswap .float _ _ hbelow habove with ⟨t, ht, ht'⟩ | ⟨o, ho, -⟩
    · rw [hfloat] at ht
      cases ht
      exact ht'
    · rw [hfloat] at ho
      cases ho

end PointSum
