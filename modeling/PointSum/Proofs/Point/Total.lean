import Mathlib.Algebra.BigOperators.Group.List.Basic
import PointSum.Proofs.Point.Sum

/-!
# Sums of lists of points

A point of words is the integers that its coordinates stand for, so the sum of a list is followed on each axis by
integers alone: `sumOn axis ps`.

* `add_eq_ok_iff_forall`, `add?_eq_error_iff_exists` : a sum of two points, and the overflow in its place;
* `foldlM_add_eq_ok_iff` : points are added to a point as long as the format holds the sums so far;
* `total_eq_ok_iff`, `exists_total_iff` : so there is a sum of a list if the format holds those of its beginnings.
-/

namespace PointSum.Point

set_option autoImplicit false

open Number

/-- The coordinate on an axis. -/
def coordinate {α : Type} (p : Point α) : Axis → α
  | .x => p.x
  | .y => p.y

variable {f : WordFormat} {p q s : Point (Word f)} {ps qs : List (Point (Word f))} {axis : Axis}

/-- The sum of the integers that the coordinates on an axis stand for. -/
def sumOn (axis : Axis) (ps : List (Point (Word f))) : Int :=
  (ps.map fun p => (p.coordinate axis).toInt).sum

@[simp] theorem sumOn_nil : sumOn axis ([] : List (Point (Word f))) = 0 := rfl

@[simp] theorem sumOn_cons : sumOn axis (p :: ps) = (p.coordinate axis).toInt + sumOn axis ps := by
  rw [sumOn, List.map_cons, List.sum_cons, sumOn]

@[simp] theorem sumOn_append : sumOn axis (ps ++ qs) = sumOn axis ps + sumOn axis qs := by
  rw [sumOn, List.map_append, List.sum_append, sumOn, sumOn]

/-- What one more point adds to the sum. -/
theorem sumOn_take_succ {k : Nat} (h : ps[k]? = some q) :
    sumOn axis (ps.take (k + 1)) = sumOn axis (ps.take k) + (q.coordinate axis).toInt := by
  rw [List.take_add_one, h, Option.toList_some, sumOn_append, sumOn_cons, sumOn_nil, Int.add_zero]

theorem forall_axis_iff {P : Axis → Prop} : (∀ axis, P axis) ↔ P .x ∧ P .y := by
  constructor
  · intro h
    exact ⟨h .x, h .y⟩
  · intro h axis
    cases axis
    · exact h.1
    · exact h.2

/-! ## Two points -/

theorem eq_iff_forall : s = p ↔ ∀ axis, (s.coordinate axis).toInt = (p.coordinate axis).toInt := by
  simp only [Word.toInt_inj]
  rw [forall_axis_iff, Point.mk.injEq]
  rfl

/-- Two points have a sum if the format holds both sums of integers. -/
theorem exists_point {n : Axis → Int} (h : ∀ axis, f.Holds (n axis)) :
    ∃ s : Point (Word f), ∀ axis, (s.coordinate axis).toInt = n axis := by
  refine ⟨⟨⟨.ofInt f.width (n .x)⟩, ⟨.ofInt f.width (n .y)⟩⟩, ?_⟩
  intro axis
  cases axis
  · exact Word.toInt_ofInt (h .x)
  · exact Word.toInt_ofInt (h .y)

theorem add_eq_ok_iff_forall : p.add q = .ok s ↔
    ∀ axis, (s.coordinate axis).toInt = (p.coordinate axis).toInt + (q.coordinate axis).toInt := by
  rw [add_word_eq_ok_iff, forall_axis_iff]
  rfl

theorem add?_eq_ok_iff_forall : p.add? q = .ok s ↔
    ∀ axis, (s.coordinate axis).toInt = (p.coordinate axis).toInt + (q.coordinate axis).toInt := by
  rw [add?_word_eq_ok_iff, forall_axis_iff]
  rfl

/-- The two additions have the same sums. -/
theorem add_eq_ok_iff_add? : p.add q = .ok s ↔ p.add? q = .ok s := by
  rw [add_eq_ok_iff_forall, add?_eq_ok_iff_forall]

/-- The first axis on which the format does not hold the sum is the one that overflows. -/
theorem add?_eq_error_iff_exists {o : Overflow} : p.add? q = .error o ↔
    ∃ axis, ¬ f.Holds ((p.coordinate axis).toInt + (q.coordinate axis).toInt) ∧
      (axis = .y → f.Holds ((p.coordinate .x).toInt + (q.coordinate .x).toInt)) ∧
      o = ⟨axis, toString (p.coordinate axis).toInt, toString (q.coordinate axis).toInt⟩ := by
  rw [add?_word_eq_error_iff]
  constructor
  · intro h
    rcases h with ⟨hx, ho⟩ | ⟨hx, hy, ho⟩
    · exact ⟨.x, hx, by simp, ho⟩
    · exact ⟨.y, hy, fun _ => hx, ho⟩
  · intro h
    obtain ⟨axis, hout, hx, ho⟩ := h
    cases axis with
    | x => exact .inl ⟨hout, ho⟩
    | y => exact .inr ⟨hx rfl, hout, ho⟩

/-! ## Lists of points -/

/-- Points are added one after the other as long as the format holds the sums on both axes. -/
theorem foldlM_add_eq_ok_iff : qs.foldlM add p = .ok s ↔
    (∀ k axis, f.Holds ((p.coordinate axis).toInt + sumOn axis (qs.take k))) ∧
      ∀ axis, (s.coordinate axis).toInt = (p.coordinate axis).toInt + sumOn axis qs := by
  induction qs generalizing p with
  | nil =>
    simp only [List.take_nil, sumOn_nil, Int.add_zero, Word.holds_toInt, implies_true, true_and]
    rw [← eq_iff_forall]
    exact Except.ok.injEq p s ▸ eq_comm
  | cons q qs ih =>
    rw [List.foldlM_cons, ← Nat.and_forall_add_one]
    simp only [List.take_zero, List.take_succ_cons, sumOn_nil, sumOn_cons, Int.add_zero, Word.holds_toInt,
      implies_true, true_and, ← Int.add_assoc]
    cases hsum : p.add q with
    | ok r =>
      have hr := add_eq_ok_iff_forall.1 hsum
      simp only [← hr]
      exact ih
    | error t =>
      -- Already the sums with the first point of the list are not held.
      constructor
      · intro h
        cases h
      · intro h
        obtain ⟨r, hr⟩ := exists_point fun axis => h.1 0 axis
        simp only [List.take_zero, sumOn_nil, Int.add_zero] at hr
        rw [add_eq_ok_iff_forall.2 hr] at hsum
        cases hsum

@[simp] theorem toInt_coordinate_origin : ((origin : Point (Word f)).coordinate axis).toInt = 0 := by
  cases axis
  · exact Word.toInt_zero
  · exact Word.toInt_zero

theorem total_eq_ok_iff : total ps = .ok s ↔
    (∀ k axis, f.Holds (sumOn axis (ps.take k))) ∧ ∀ axis, (s.coordinate axis).toInt = sumOn axis ps := by
  rw [total, foldlM_add_eq_ok_iff]
  simp only [toInt_coordinate_origin, Int.zero_add]

/-- A list has a sum if the format holds those of all its beginnings. -/
theorem exists_total_iff : (∃ s, total ps = .ok s) ↔ ∀ k axis, f.Holds (sumOn axis (ps.take k)) := by
  constructor
  · intro h
    obtain ⟨s, hs⟩ := h
    exact (total_eq_ok_iff.1 hs).1
  · intro h
    have hlast := h ps.length
    rw [List.take_length] at hlast
    obtain ⟨s, hs⟩ := exists_point hlast
    exact ⟨s, total_eq_ok_iff.2 ⟨h, hs⟩⟩

/-- The sum of a list that begins with a point is what adding the other points to it gives. -/
theorem total_cons (p : Point (Word f)) (ps : List (Point (Word f))) : total (p :: ps) = ps.foldlM add p := by
  have horigin : origin.add p = .ok p := add_eq_ok_iff_forall.2 fun axis => by simp
  rw [total, List.foldlM_cons, horigin]
  rfl

end PointSum.Point
