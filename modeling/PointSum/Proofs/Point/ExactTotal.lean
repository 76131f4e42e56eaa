import Mathlib.Data.List.Infix
import PointSum.Proofs.Point.Checked

/-!
# Totals are exact, or there is none

Adding up a list of points of words gives the sums of the integers on both axes, or it traps; nothing lies between.
Which of the two happens is decided by the beginnings of the list and not by its end.

* `IsExactSum ps r` : `r` is the exact sum of the points where the format holds the sums of all beginnings of the
  list, and a trap where it does not hold one;
* `total_isExact` : so the total is;
* `foldlM_add_eq_ok_iff_add?` : the checked addition goes through a list whenever the one that traps does;
* `totalOf_get` : points that are looked at where they stand have the total of the points themselves;
* `total_isExactSum` : all of it for any list.
-/

namespace PointSum.Point

set_option autoImplicit false

open Number

variable {f : WordFormat} {p s : Point (Word f)} {ps : List (Point (Word f))}

/-- The format holds the sums of every beginning of the list, on both axes. -/
def HoldsBeginnings (ps : List (Point (Word f))) : Prop :=
  ∀ qs, qs <+: ps → ∀ axis, f.Holds (sumOn axis qs)

/-- What a sum of a list of points has to be: it is there if the format holds the sums of all beginnings of the list on
both axes, and then its coordinates are the sums of the whole list; otherwise there is a trap. -/
structure IsExactSum (ps : List (Point (Word f))) (r : Except Trap (Point (Word f))) : Prop where
  returns_iff : (∃ s, r = .ok s) ↔ HoldsBeginnings ps
  exact : ∀ s, r = .ok s → ∀ axis, (s.coordinate axis).toInt = sumOn axis ps
  traps_iff : (∃ t, r = .error t) ↔ ∃ qs axis, qs <+: ps ∧ ¬ f.Holds (sumOn axis qs)

theorem holdsBeginnings_iff_take : HoldsBeginnings ps ↔ ∀ k axis, f.Holds (sumOn axis (ps.take k)) := by
  constructor
  · intro h k
    exact h _ (List.take_prefix k ps)
  · intro h qs hqs
    rw [List.prefix_iff_eq_take.1 hqs]
    exact h qs.length

theorem total_isExact (ps : List (Point (Word f))) : IsExactSum ps (total ps) := by
  have hreturns : (∃ s, total ps = .ok s) ↔ HoldsBeginnings ps := by
    rw [exists_total_iff, holdsBeginnings_iff_take]
  refine ⟨hreturns, fun s hs => (total_eq_ok_iff.1 hs).2, ?_⟩
  -- There is a trap where there is no sum.
  have htraps : (∃ t, total ps = .error t) ↔ ¬ HoldsBeginnings ps := by
    rw [← hreturns]
    cases total ps with
    | ok s => simp
    | error t =>
      apply iff_of_true
      · exact ⟨t, rfl⟩
      · simp
  rw [htraps]
  unfold HoldsBeginnings
  push Not
  simp only [exists_and_left]

/-! ## The checked addition over a list -/

theorem foldlM_add_eq_ok_iff_add? : ps.foldlM add p = .ok s ↔ ps.foldlM add? p = .ok s := by
  induction ps generalizing p with
  | nil =>
    rw [List.foldlM_nil, List.foldlM_nil]
    simp [pure, Except.pure]
  | cons q qs ih =>
    rw [List.foldlM_cons, List.foldlM_cons]
    cases hsum : p.add q with
    | ok r =>
      rw [add_eq_ok_iff_add?.1 hsum]
      exact ih
    | error t =>
      have hnone : ∀ r, p.add? q ≠ .ok r := by
        intro r hr
        rw [add_eq_ok_iff_add?.2 hr] at hsum
        cases hsum
      cases hchecked : p.add? q with
      | ok r => exact absurd hchecked (hnone r)
      | error o =>
        constructor
        · intro h
          cases h
        · intro h
          cases h

/-! ## Points that are looked at -/

theorem totalOf_get (ps : List (Point (Word f))) : totalOf ps.get (List.finRange ps.length) = total ps := by
  rw [totalOf, List.map_get_finRange]

/-! ## Lists in two parts -/

theorem total_append_eq_ok_iff {xs ys : List (Point (Word f))} :
    total (xs ++ ys) = .ok s ↔ ∃ r, total xs = .ok r ∧ ys.foldlM add r = .ok s := by
  unfold total
  rw [List.foldlM_append]
  cases xs.foldlM add origin with
  | error t => simp [bind, Except.bind]
  | ok r => simp [bind, Except.bind]

/-- Adding up points gives their exact sum if the format holds the sums of all beginnings of the list, and traps if it
does not. The checked addition from the origin gives the same points. So do references to the points, and a list in
two parts goes on behind its first part where the sum of that part is. -/
theorem total_isExactSum (f : WordFormat) (ps : List (Point (Word f))) :
    IsExactSum ps (total ps) ∧
    (∀ s, total ps = .ok s ↔ ps.foldlM add? origin = .ok s) ∧
    totalOf ps.get (List.finRange ps.length) = total ps ∧
    (∀ {ι : Type} (look : ι → Point (Word f)) (refs : List ι), IsExactSum (refs.map look) (totalOf look refs)) ∧
    (∀ qs s, total (ps ++ qs) = .ok s ↔ ∃ r, total ps = .ok r ∧ qs.foldlM add r = .ok s) := by
  refine ⟨total_isExact ps, fun s => foldlM_add_eq_ok_iff_add?, totalOf_get ps, ?_, ?_⟩
  · intro ι look refs
    exact total_isExact (refs.map look)
  · intro qs s
    exact total_append_eq_ok_iff

-- The sum of the whole list fits, but not that of its first two points.
example : total [⟨⟨127#8⟩, ⟨0#8⟩⟩, ⟨⟨1#8⟩, ⟨0#8⟩⟩, (⟨⟨-2#8⟩, ⟨0#8⟩⟩ : Point (Word .int8))] =
    .error .addOverflow := by
  decide

end PointSum.Point
