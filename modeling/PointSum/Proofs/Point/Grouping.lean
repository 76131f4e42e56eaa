import Mathlib.Algebra.Order.BigOperators.Group.List
import PointSum.Proofs.Point.Checked

/-!
# Sums in any order and grouping

Whether a sum of words traps depends on the sums on the way, so on the order and the grouping of the points; what it
is, where it does not trap, does not. And where the coordinates on each axis are all on one side of zero, the sums on
the way lie between zero and the whole sum, so that the whole sum alone decides.

* `Grouping` : lists of points, and sums of two groupings; `Grouping.sum` : what adding up that way gives;
* `OneSided axis ps` : no two coordinates on the axis have opposite signs; `OneSided.holds_append` : then a format that
  holds the sum of two lists holds those of both;
* `Grouping.toInt_sum` : a grouping has the sums of integers, or none;
* `Grouping.exists_sum_iff` : with coordinates on one side it has a sum if the format holds the sums of integers;
* `grouping_sum_agrees` : what two groupings of the same points have in common.
-/

namespace PointSum.Point

set_option autoImplicit false

open Number

/-- An order and a grouping of points to be added: a list of them from left to right, or two groupings whose sums are
added. -/
inductive Grouping (α : Type) where
  | inOrder (ps : List (Point α))
  | join (g h : Grouping α)

/-- The points of a grouping. -/
def Grouping.points {α : Type} : Grouping α → List (Point α)
  | inOrder ps => ps
  | join g h => g.points ++ h.points

/-- The sum of a grouping, or the trap that stopped it. -/
def Grouping.sum {α : Type} [Scalar α] : Grouping α → Except Trap (Point α)
  | inOrder ps => total ps
  | join g h => do
    let p ← g.sum
    let q ← h.sum
    p.add q

variable {f : WordFormat} {p q s t : Point (Word f)} {ps qs : List (Point (Word f))} {axis : Axis}

/-- The coordinates on the axis are all on one side of zero, or zero. -/
def OneSided (axis : Axis) (ps : List (Point (Word f))) : Prop :=
  (∀ p ∈ ps, 0 ≤ (p.coordinate axis).toInt) ∨ ∀ p ∈ ps, (p.coordinate axis).toInt ≤ 0

theorem sumOn_perm (h : ps.Perm qs) : sumOn axis ps = sumOn axis qs :=
  (h.map _).sum_eq

/-! ## Coordinates on one side of zero -/

theorem sumOn_nonneg (h : ∀ p ∈ ps, 0 ≤ (p.coordinate axis).toInt) : 0 ≤ sumOn axis ps := by
  apply List.sum_nonneg
  simpa using h

theorem sumOn_nonpos (h : ∀ p ∈ ps, (p.coordinate axis).toInt ≤ 0) : sumOn axis ps ≤ 0 := by
  have hle := List.sum_le_card_nsmul (ps.map fun p => (p.coordinate axis).toInt) 0 (by simpa using h)
  rwa [nsmul_zero] at hle

theorem OneSided.perm (hs : OneSided axis ps) (h : ps.Perm qs) : OneSided axis qs := by
  unfold OneSided at hs ⊢
  simpa only [h.mem_iff] using hs

theorem OneSided.of_append (hs : OneSided axis (ps ++ qs)) : OneSided axis ps ∧ OneSided axis qs := by
  unfold OneSided at hs ⊢
  simp only [List.forall_mem_append] at hs
  rcases hs with ⟨hp, hq⟩ | ⟨hp, hq⟩
  · exact ⟨.inl hp, .inl hq⟩
  · exact ⟨.inr hp, .inr hq⟩

/-- A format without a sign has no coordinates below zero. -/
theorem oneSided_of_unsigned (hf : f.signed = false) (axis : Axis) (ps : List (Point (Word f))) :
    OneSided axis ps := by
  left
  intro p _
  have hleast : f.least = 0 := by
    unfold WordFormat.least
    rw [if_neg]
    simp [hf]
  have := (p.coordinate axis).holds_toInt.1
  omega

/-- Both parts of a sum lie between zero and the whole. -/
theorem OneSided.holds_append (hs : OneSided axis (ps ++ qs)) (h : f.Holds (sumOn axis (ps ++ qs))) :
    f.Holds (sumOn axis ps) ∧ f.Holds (sumOn axis qs) := by
  have hleast := f.least_nonpos
  have hgreatest := f.greatest_nonneg
  rw [sumOn_append] at h
  unfold WordFormat.Holds at h ⊢
  unfold OneSided at hs
  simp only [List.forall_mem_append] at hs
  rcases hs with ⟨hp, hq⟩ | ⟨hp, hq⟩
  · have hp := sumOn_nonneg hp
    have hq := sumOn_nonneg hq
    omega
  · have hp := sumOn_nonpos hp
    have hq := sumOn_nonpos hq
    omega

theorem OneSided.exists_total (hs : ∀ axis, OneSided axis ps) (h : ∀ axis, f.Holds (sumOn axis ps)) :
    ∃ s, total ps = .ok s := by
  apply exists_total_iff.2
  intro k axis
  have hsplit := List.take_append_drop k ps
  have hwhole := h axis
  have hside := hs axis
  rw [← hsplit] at hwhole hside
  exact (hside.holds_append hwhole).1

/-! ## Groupings -/

namespace Grouping

variable {g h : Grouping (Word f)}

theorem join_sum_eq_ok_iff :
    (join g h).sum = .ok s ↔ ∃ p q, g.sum = .ok p ∧ h.sum = .ok q ∧ p.add q = .ok s := by
  rw [sum]
  cases g.sum with
  | error t => simp [bind, Except.bind]
  | ok p =>
    cases h.sum with
    | error t => simp [bind, Except.bind]
    | ok q => simp [bind, Except.bind]

theorem toInt_sum (hs : g.sum = .ok s) : ∀ axis, (s.coordinate axis).toInt = sumOn axis g.points := by
  induction g generalizing s with
  | inOrder ps => exact (total_eq_ok_iff.1 hs).2
  | join g h ihg ihh =>
    obtain ⟨p, q, hp, hq, hsum⟩ := join_sum_eq_ok_iff.1 hs
    intro axis
    rw [points, sumOn_append, ← ihg hp, ← ihh hq]
    exact add_eq_ok_iff_forall.1 hsum axis

theorem exists_sum_iff (hside : ∀ axis, OneSided axis g.points) :
    (∃ s, g.sum = .ok s) ↔ ∀ axis, f.Holds (sumOn axis g.points) := by
  constructor
  · intro ⟨s, hs⟩ axis
    rw [← toInt_sum hs]
    exact Word.holds_toInt _
  · intro hholds
    induction g with
    | inOrder ps => exact OneSided.exists_total hside hholds
    | join g h ihg ihh =>
      unfold points at hside hholds
      have hparts := fun axis => (hside axis).holds_append (hholds axis)
      obtain ⟨p, hp⟩ := ihg (fun axis => (hside axis).of_append.1) fun axis => (hparts axis).1
      obtain ⟨q, hq⟩ := ihh (fun axis => (hside axis).of_append.2) fun axis => (hparts axis).2
      have hsum : ∀ axis, f.Holds (sumPair p q axis) := by
        intro axis
        have hwhole := hholds axis
        rwa [sumOn_append, ← toInt_sum hp, ← toInt_sum hq] at hwhole
      obtain ⟨s, hs⟩ := exists_add_eq_ok_iff.2 hsum
      exact ⟨s, join_sum_eq_ok_iff.2 ⟨p, q, hp, hq, hs⟩⟩

theorem sum_unique (hpoints : g.points.Perm h.points) (hs : g.sum = .ok s) (ht : h.sum = .ok t) : s = t := by
  apply eq_iff_forall.2
  intro axis
  rw [toInt_sum hs, toInt_sum ht, sumOn_perm hpoints]

theorem sum_eq_of_oneSided (hpoints : g.points.Perm h.points) (hside : ∀ axis, OneSided axis g.points) :
    g.sum = h.sum := by
  have hexists : (∃ s, g.sum = .ok s) ↔ ∃ s, h.sum = .ok s := by
    rw [exists_sum_iff hside, exists_sum_iff fun axis => (hside axis).perm hpoints]
    simp only [sumOn_perm hpoints]
  cases hg : g.sum with
  | ok s =>
    obtain ⟨t, ht⟩ := hexists.1 ⟨s, hg⟩
    rw [ht, sum_unique hpoints hg ht]
  | error e =>
    cases hh : h.sum with
    | ok t =>
      obtain ⟨s, hs⟩ := hexists.2 ⟨t, hh⟩
      rw [hs] at hg
      cases hg
    | error e' => rfl

end Grouping

/-- The points of two groupings being the same in some order, their sums are the same point wherever both are there.
If the format has no sign, or the coordinates on each axis are all on one side of zero, one traps if and only if the
other does, so that order and grouping do not matter at all. -/
theorem grouping_sum_agrees (f : WordFormat) (g h : Grouping (Word f)) (hpoints : g.points.Perm h.points) :
    (f.signed = false → g.sum = h.sum) ∧
    (∀ s t, g.sum = .ok s → h.sum = .ok t → s = t) ∧
    ((∀ axis, OneSided axis g.points) → g.sum = h.sum) := by
  refine ⟨fun hf => ?_, fun s t => Grouping.sum_unique hpoints, Grouping.sum_eq_of_oneSided hpoints⟩
  apply Grouping.sum_eq_of_oneSided hpoints
  intro axis
  exact oneSided_of_unsigned hf axis g.points

theorem grouping_sum_agrees_bytes :
    (WordFormat.nat8.signed = false ∧
      [(⟨⟨200#8⟩, ⟨1#8⟩⟩ : Point (Word .nat8)), ⟨⟨50#8⟩, ⟨2#8⟩⟩, ⟨⟨6#8⟩, ⟨3#8⟩⟩].Perm
        ([⟨⟨6#8⟩, ⟨3#8⟩⟩, ⟨⟨200#8⟩, ⟨1#8⟩⟩] ++ [⟨⟨50#8⟩, ⟨2#8⟩⟩]) ∧
      (Grouping.inOrder [(⟨⟨200#8⟩, ⟨1#8⟩⟩ : Point (Word .nat8)), ⟨⟨50#8⟩, ⟨2#8⟩⟩, ⟨⟨6#8⟩, ⟨3#8⟩⟩]).sum =
        (Grouping.join (.inOrder [⟨⟨6#8⟩, ⟨3#8⟩⟩, ⟨⟨200#8⟩, ⟨1#8⟩⟩]) (.inOrder [⟨⟨50#8⟩, ⟨2#8⟩⟩])).sum) ∧
    ([(⟨⟨127#8⟩, ⟨-5#8⟩⟩ : Point (Word .int8)), ⟨⟨-128#8⟩, ⟨7#8⟩⟩].Perm [⟨⟨-128#8⟩, ⟨7#8⟩⟩, ⟨⟨127#8⟩, ⟨-5#8⟩⟩] ∧
      ∃ s t, total [(⟨⟨127#8⟩, ⟨-5#8⟩⟩ : Point (Word .int8)), ⟨⟨-128#8⟩, ⟨7#8⟩⟩] = .ok s ∧
        total [⟨⟨-128#8⟩, ⟨7#8⟩⟩, ⟨⟨127#8⟩, ⟨-5#8⟩⟩] = .ok t ∧ s = t) ∧
    ((∀ axis, OneSided axis [(⟨⟨-100#8⟩, ⟨9#8⟩⟩ : Point (Word .int8)), ⟨⟨-29#8⟩, ⟨0#8⟩⟩]) ∧
      total [(⟨⟨-100#8⟩, ⟨9#8⟩⟩ : Point (Word .int8)), ⟨⟨-29#8⟩, ⟨0#8⟩⟩] =
        total [⟨⟨-29#8⟩, ⟨0#8⟩⟩, ⟨⟨-100#8⟩, ⟨9#8⟩⟩]) := by
  have hs : total [(⟨⟨127#8⟩, ⟨-5#8⟩⟩ : Point (Word .int8)), ⟨⟨-128#8⟩, ⟨7#8⟩⟩] = .ok ⟨⟨-1#8⟩, ⟨2#8⟩⟩ := by decide
  have ht : total [(⟨⟨-128#8⟩, ⟨7#8⟩⟩ : Point (Word .int8)), ⟨⟨127#8⟩, ⟨-5#8⟩⟩] = .ok ⟨⟨-1#8⟩, ⟨2#8⟩⟩ := by decide
  refine ⟨⟨rfl, by decide, ?_⟩, ⟨by decide, _, _, hs, ht, ?_⟩, ?_, ?_⟩
  · exact (grouping_sum_agrees .nat8 (.inOrder _) (.join (.inOrder _) (.inOrder _)) (by decide)).1 rfl
  · exact (grouping_sum_agrees .int8 (.inOrder _) (.inOrder _) (by decide)).2.1 _ _ hs ht
  · exact forall_axis_iff.2 ⟨.inr (by decide), .inl (by decide)⟩
  · exact (grouping_sum_agrees .int8 (.inOrder _) (.inOrder _) (by decide)).2.2
      (forall_axis_iff.2 ⟨.inr (by decide), .inl (by decide)⟩)

-- With coordinates on both sides of zero the order decides whether there is a sum.
example : total [⟨⟨127#8⟩, ⟨0#8⟩⟩, ⟨⟨-2#8⟩, ⟨0#8⟩⟩, (⟨⟨1#8⟩, ⟨0#8⟩⟩ : Point (Word .int8))] = .ok ⟨⟨126#8⟩, ⟨0#8⟩⟩ ∧
    total [⟨⟨127#8⟩, ⟨0#8⟩⟩, ⟨⟨1#8⟩, ⟨0#8⟩⟩, (⟨⟨-2#8⟩, ⟨0#8⟩⟩ : Point (Word .int8))] = .error .addOverflow := by decide

end PointSum.Point
