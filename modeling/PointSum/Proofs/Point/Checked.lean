import PointSum.Proofs.Point.Grammar
import PointSum.Proofs.Point.Total

/-!
# The two additions of points of words

The addition that reports an overflow and the one that traps have the same sums, and where one has none the other has
none.

* `add_eq_error_iff` : the trap, in the terms of the integers;
* `read_toString` : the text of an overflow's operand is read as the operand;
* `add?_agrees_add` : for all points, the common sum, or the trap of the one and the overflow that the other reports.
-/

namespace PointSum.Point

set_option autoImplicit false

open Number

variable {f : WordFormat} {p q : Point (Word f)}

/-- The sum of the integers on an axis. -/
def sumPair (p q : Point (Word f)) (axis : Axis) : Int := (p.coordinate axis).toInt + (q.coordinate axis).toInt

theorem exists_add_eq_ok_iff : (∃ s, p.add q = .ok s) ↔ ∀ axis, f.Holds (sumPair p q axis) := by
  constructor
  · rintro ⟨s, hs⟩ axis
    rw [sumPair, ← add_eq_ok_iff_forall.1 hs axis]
    exact Word.holds_toInt _
  · intro h
    obtain ⟨s, hs⟩ := exists_point h
    exact ⟨s, add_eq_ok_iff_forall.2 hs⟩

/-- The addition traps if the format does not hold the sum on some axis. -/
theorem add_eq_error_iff {t : Trap} : p.add q = .error t ↔ ∃ axis, ¬ f.Holds (sumPair p q axis) := by
  rw [← not_forall, ← exists_add_eq_ok_iff]
  cases hsum : p.add q with
  | ok s => simp
  | error t' =>
    cases t
    cases t'
    simp

theorem read_toString (a : Word f) : Word.read f (toString a.toInt).toList = .ok a := by
  rw [← a.ofList_text, String.toList_ofList]
  exact Word.read_eq_ok_iff.2 a.numeral_text

/-- The overflow names the first axis whose sum the format does not hold, and its operands in decimal digits. -/
theorem add?_overflow {o : Overflow} (h : p.add? q = .error o) :
    (o.axis = .x ↔ ¬ f.Holds (sumPair p q .x)) ∧
      (o.axis = .y ↔ f.Holds (sumPair p q .x) ∧ ¬ f.Holds (sumPair p q .y)) ∧
      o.lhs = toString (p.coordinate o.axis).toInt ∧ o.rhs = toString (q.coordinate o.axis).toInt := by
  obtain ⟨axis, hout, hfirst, rfl⟩ := add?_eq_error_iff_exists.1 h
  cases axis with
  | x =>
    have hx : ¬ f.Holds (sumPair p q .x) := hout
    simp [hx]
  | y =>
    have hx : f.Holds (sumPair p q .x) := hfirst rfl
    have hy : ¬ f.Holds (sumPair p q .y) := hout
    simp [hx, hy]

theorem exists_add?_eq_error (h : ∃ axis, ¬ f.Holds (sumPair p q axis)) : ∃ o, p.add? q = .error o := by
  cases hsum : p.add? q with
  | error o => exact ⟨o, rfl⟩
  | ok s =>
    rw [← not_forall, ← exists_add_eq_ok_iff] at h
    exact absurd ⟨s, add_eq_ok_iff_add?.2 hsum⟩ h

/-- If the format holds the sums of integers on both axes, the points have them as their sum by every addition. If it
does not hold one, the native additions trap with one message, and the checked one reports the first such axis with
its operands, as decimal texts that are read as the operands. -/
theorem add?_agrees_add (p q : Point (Word f)) :
    ((∀ axis, f.Holds (sumPair p q axis)) →
      ∃ s, (∀ axis, (s.coordinate axis).toInt = sumPair p q axis) ∧
        p.add? q = .ok s ∧ p.add q = .ok s ∧ (p + q : Except Trap (Point (Word f))) = .ok s) ∧
    ((∃ axis, ¬ f.Holds (sumPair p q axis)) →
      (∃ t, p.add q = .error t ∧ (p + q : Except Trap (Point (Word f))) = .error t ∧
        t.message = "attempt to add with overflow") ∧
      ∃ o, p.add? q = .error o ∧ (o.axis = .x ↔ ¬ f.Holds (sumPair p q .x)) ∧
        (o.axis = .y ↔ f.Holds (sumPair p q .x) ∧ ¬ f.Holds (sumPair p q .y)) ∧
        o.lhs = toString (p.coordinate o.axis).toInt ∧ o.rhs = toString (q.coordinate o.axis).toInt ∧
        Word.read f o.lhs.toList = .ok (p.coordinate o.axis) ∧
        Word.read f o.rhs.toList = .ok (q.coordinate o.axis)) := by
  refine ⟨fun h => ?_, fun h => ⟨?_, ?_⟩⟩
  · obtain ⟨s, hs⟩ := exists_point h
    have hadd : p.add q = .ok s := add_eq_ok_iff_forall.2 hs
    exact ⟨s, hs, add_eq_ok_iff_add?.1 hadd, hadd, hadd⟩
  · have htrap : p.add q = .error .addOverflow := add_eq_error_iff.2 h
    exact ⟨.addOverflow, htrap, htrap, rfl⟩
  · obtain ⟨o, ho⟩ := exists_add?_eq_error h
    obtain ⟨hx, hy, hlhs, hrhs⟩ := add?_overflow ho
    refine ⟨o, ho, hx, hy, hlhs, hrhs, ?_, ?_⟩
    · rw [hlhs, read_toString]
    · rw [hrhs, read_toString]

theorem add?_agrees_add_bounds :
    ((∀ axis, WordFormat.int8.Holds (sumPair (f := .int8) ⟨⟨-128#8⟩, ⟨127#8⟩⟩ ⟨⟨127#8⟩, ⟨-128#8⟩⟩ axis)) ∧
      ∃ s : Point (Word .int8), (∀ axis, (s.coordinate axis).toInt = -1) ∧
        (⟨⟨-128#8⟩, ⟨127#8⟩⟩ : Point (Word .int8)).add? ⟨⟨127#8⟩, ⟨-128#8⟩⟩ = .ok s) ∧
    ((∃ axis, ¬ WordFormat.int8.Holds (sumPair (f := .int8) ⟨⟨-128#8⟩, ⟨127#8⟩⟩ ⟨⟨-1#8⟩, ⟨1#8⟩⟩ axis)) ∧
      ∃ o, (⟨⟨-128#8⟩, ⟨127#8⟩⟩ : Point (Word .int8)).add? ⟨⟨-1#8⟩, ⟨1#8⟩⟩ = .error o ∧ o.axis = .x ∧
        Word.read .int8 o.lhs.toList = .ok ⟨-128#8⟩ ∧ Word.read .int8 o.rhs.toList = .ok ⟨-1#8⟩) := by
  have hin : ∀ axis, WordFormat.int8.Holds (sumPair (f := .int8) ⟨⟨-128#8⟩, ⟨127#8⟩⟩ ⟨⟨127#8⟩, ⟨-128#8⟩⟩ axis) :=
    forall_axis_iff.2 (by decide)
  have hx : ¬ WordFormat.int8.Holds (sumPair (f := .int8) ⟨⟨-128#8⟩, ⟨127#8⟩⟩ ⟨⟨-1#8⟩, ⟨1#8⟩⟩ .x) := by decide
  obtain ⟨s, hs, hsum, -, -⟩ := (add?_agrees_add _ _).1 hin
  obtain ⟨-, o, ho, hox, -, -, -, hlhs, hrhs⟩ := (add?_agrees_add _ _).2 ⟨.x, hx⟩
  rw [hox.2 hx] at hlhs hrhs
  exact ⟨⟨hin, s, forall_axis_iff.2 ⟨hs .x, hs .y⟩, hsum⟩, ⟨.x, hx⟩, o, ho, hox.2 hx, hlhs, hrhs⟩

end PointSum.Point
