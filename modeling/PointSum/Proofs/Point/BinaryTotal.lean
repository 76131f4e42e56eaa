import PointSum.Proofs.Number.Laws
import PointSum.Proofs.Point.Total

/-!
# Sums of points of binary numbers

Binary numbers always have a sum, so the sum of a list is followed on each axis by itself: it is `Binary.total` of the
coordinates.

* `Point.add_isSum` : both additions of points give the point whose coordinates are the sums of the coordinates;
* `Binary.total_ne_zero_true` : the sum so far is never negative zero;
* `Binary.total_append_of_isNaN`, `Binary.total_concat_of_isFinite` : NaN stays, and finite numbers change neither NaN
  nor an infinity;
* `Binary.total_isNaN_iff` : where a NaN comes from;
* `Point.total_eq` : the sum of points on each axis; `Point.IsPlusZero`, `Point.coordinate_add_origin` : what adding the
  origin does, on either side;
* `Point.total_binary` : all of it for points.
-/

namespace PointSum

set_option autoImplicit false

open Number

variable {f : BinaryFormat}

/-! ## Lists of numbers -/

namespace Number.Binary

variable {x y : Binary f} {xs ys zs : List (Binary f)}

/-- The sum of a list of numbers, from positive zero and from left to right. -/
def total (xs : List (Binary f)) : Binary f := xs.foldl add (zero false)

@[simp] theorem total_nil : total ([] : List (Binary f)) = zero false := rfl

@[simp] theorem total_concat (xs : List (Binary f)) (x : Binary f) : total (xs ++ [x]) = (total xs).add x := by
  rw [total, List.foldl_append]
  rfl

theorem total_ne_zero_true (xs : List (Binary f)) : total xs ≠ zero true := by
  induction xs using List.reverseRecOn with
  | nil => exact fun h => Bool.false_ne_true (congrArg negative h)
  | append_singleton xs x ih =>
    rw [total_concat, ne_eq, add_eq_zero_true_iff]
    exact fun h => ih h.1

theorem eq_nan_of_total (h : (total xs).isNaN) : total xs = nan := by
  induction xs using List.reverseRecOn with
  | nil =>
    rw [total_nil, not_isNaN_of_isFinite (isFinite_zero false)] at h
    cases h
  | append_singleton xs x _ =>
    rw [total_concat] at h ⊢
    exact eq_nan_of_add h

theorem total_concat_of_isFinite (h : (total xs).isFinite = false) (hx : x.isFinite) :
    total (xs ++ [x]) = total xs := by
  rw [total_concat]
  rcases (total xs).cases_of with hnan | hinf | hfin
  · rw [eq_nan_of_total hnan, nan_add]
  · exact add_of_isInfinite hinf hx
  · rw [h] at hfin
    cases hfin

theorem total_append_of_isNaN (h : (total xs).isNaN) (ys : List (Binary f)) : (total (xs ++ ys)).isNaN := by
  induction ys using List.reverseRecOn with
  | nil => rwa [List.append_nil]
  | append_singleton ys y ih =>
    rw [← List.append_assoc, total_concat]
    exact add_isNaN_iff.2 (.inl ih)

theorem total_isNaN_of_mem (hx : x ∈ xs) (h : x.isNaN) : (total xs).isNaN := by
  obtain ⟨ys, zs, rfl⟩ := List.append_of_mem hx
  rw [List.append_cons]
  apply total_append_of_isNaN
  rw [total_concat]
  exact add_isNaN_iff.2 (.inr (.inl h))

/-- An infinity stays what it is until a NaN or the opposite infinity makes it the NaN. -/
theorem total_isNaN_of_opposite (hys : (total ys).isInfinite) (hx : x ∈ xs) (h : x.isInfinite)
    (hside : x.negative ≠ (total ys).negative) : (total (ys ++ xs)).isNaN := by
  induction xs generalizing ys with
  | nil => cases hx
  | cons z zs ih =>
    rw [List.append_cons]
    by_cases hnan : (total (ys ++ [z])).isNaN
    · exact total_append_of_isNaN hnan zs
    · have hz : total (ys ++ [z]) = total ys := by
        rw [total_concat] at hnan ⊢
        rcases z.cases_of with hz | hz | hz
        · exact absurd (add_isNaN_iff.2 (.inr (.inl hz))) hnan
        · rw [add_of_infinite_left hys (not_isNaN_of_isInfinite hz), if_neg]
          exact fun h => hnan (add_isNaN_iff.2 (.inr (.inr ⟨hys, h⟩)))
        · exact add_of_isInfinite hys hz
      rcases List.mem_cons.1 hx with rfl | hx
      · rw [total_concat] at hnan
        exact absurd (add_isNaN_iff.2 (.inr (.inr ⟨hys, h, hside.symm⟩))) hnan
      · rw [← hz] at hys hside
        exact ih hys hx hside

theorem total_isNaN_iff : (total xs).isNaN ↔ (∃ x ∈ xs, x.isNaN) ∨
    ∃ ys zs, xs = ys ++ zs ∧ (total ys).isInfinite ∧ ∃ z ∈ zs, z.isInfinite ∧ z.negative ≠ (total ys).negative := by
  constructor
  · intro h
    induction xs using List.reverseRecOn with
    | nil =>
      rw [total_nil, not_isNaN_of_isFinite (isFinite_zero false)] at h
      cases h
    | append_singleton xs x ih =>
      rw [total_concat] at h
      rcases add_isNaN_iff.1 h with hxs | hx | ⟨hxs, hx, hside⟩
      · rcases ih hxs with ⟨y, hy, hnan⟩ | ⟨ys, zs, rfl, hys, z, hz, hopposite⟩
        · exact .inl ⟨y, List.mem_append_left _ hy, hnan⟩
        · exact .inr ⟨ys, zs ++ [x], List.append_assoc ys zs [x], hys, z, List.mem_append_left _ hz, hopposite⟩
      · exact .inl ⟨x, List.mem_concat_self, hx⟩
      · exact .inr ⟨xs, [x], rfl, hxs, x, List.mem_singleton_self x, hx, hside.symm⟩
  · rintro (⟨x, hx, hnan⟩ | ⟨ys, zs, rfl, hys, z, hz, hinf, hside⟩)
    · exact total_isNaN_of_mem hx hnan
    · exact total_isNaN_of_opposite hys hz hinf hside

theorem not_isFinite_total_append (h : (total xs).isFinite = false) (ys : List (Binary f)) :
    (total (xs ++ ys)).isFinite = false := by
  induction ys using List.reverseRecOn with
  | nil => rwa [List.append_nil]
  | append_singleton ys y ih =>
    rw [← List.append_assoc, total_concat]
    exact not_isFinite_add ih y

end Number.Binary

/-! ## Lists of points -/

namespace Point

open Binary (zero)

variable {p s : Point (Binary f)} {ps : List (Point (Binary f))} {axis : Axis}

theorem add?_binary (p q : Point (Binary f)) : p.add? q = .ok ⟨p.x.add q.x, p.y.add q.y⟩ := rfl

/-- Two points of binary numbers have a sum, the same by both additions: on each axis it is NaN, an infinity, or the
exact sum of rational numbers rounded. -/
theorem add_isSum (p q : Point (Binary f)) :
    ∃ s, p.add q = .ok s ∧ p.add? q = .ok s ∧
      ∀ axis, (p.coordinate axis).IsSum (q.coordinate axis) (s.coordinate axis) := by
  refine ⟨⟨p.x.add q.x, p.y.add q.y⟩, add_binary p q, add?_binary p q, ?_⟩
  intro axis
  cases axis
  · exact Binary.isSum_add p.x q.x
  · exact Binary.isSum_add p.y q.y

/-- The sums of the coordinates, axis by axis. -/
def axisTotals (ps : List (Point (Binary f))) : Point (Binary f) :=
  ⟨Binary.total (ps.map (·.coordinate .x)), Binary.total (ps.map (·.coordinate .y))⟩

theorem coordinate_axisTotals (ps : List (Point (Binary f))) (axis : Axis) :
    (axisTotals ps).coordinate axis = Binary.total (ps.map (·.coordinate axis)) := by
  cases axis <;> rfl

theorem total_eq (ps : List (Point (Binary f))) : total ps = .ok (axisTotals ps) := by
  unfold total
  induction ps using List.reverseRecOn with
  | nil => rfl
  | append_singleton ps p ih =>
    rw [List.foldlM_append, ih]
    simp [axisTotals, coordinate, bind, Except.bind, pure, Except.pure]

/-- On an axis the sum is a NaN if a coordinate is, or if it was an infinity on the way and the opposite infinity
comes later. -/
theorem isNaN_axisTotals_iff : ((axisTotals ps).coordinate axis).isNaN ↔ (∃ p ∈ ps, (p.coordinate axis).isNaN) ∨
    ∃ qs rs t, ps = qs ++ rs ∧ total qs = .ok t ∧ (t.coordinate axis).isInfinite ∧
      ∃ r ∈ rs, (r.coordinate axis).isInfinite ∧ (r.coordinate axis).negative ≠ (t.coordinate axis).negative := by
  rw [coordinate_axisTotals, Binary.total_isNaN_iff]
  apply or_congr
  · simp
  · constructor
    · rintro ⟨ys, zs, hps, hinf, z, hz, hopposite⟩
      obtain ⟨qs, rs, rfl, rfl, rfl⟩ := List.map_eq_append_iff.1 hps
      obtain ⟨r, hr, rfl⟩ := List.mem_map.1 hz
      rw [← coordinate_axisTotals] at hinf hopposite
      exact ⟨qs, rs, axisTotals qs, rfl, total_eq qs, hinf, r, hr, hopposite⟩
    · rintro ⟨qs, rs, t, rfl, ht, hinf, r, hr, hopposite⟩
      obtain rfl := Except.ok.inj ((total_eq qs).symm.trans ht)
      rw [coordinate_axisTotals] at hinf hopposite
      exact ⟨_, _, List.map_append, hinf, _, List.mem_map_of_mem hr, hopposite⟩

/-- A finite coordinate does not change a sum that was an infinity or a NaN before. -/
theorem axisTotals_concat (ps qs : List (Point (Binary f)))
    (h : ((axisTotals ps).coordinate axis).isFinite = false) (hp : (p.coordinate axis).isFinite) :
    (axisTotals (ps ++ qs ++ [p])).coordinate axis = (axisTotals (ps ++ qs)).coordinate axis := by
  rw [coordinate_axisTotals] at h ⊢
  rw [coordinate_axisTotals, List.map_append, List.map_singleton]
  apply Binary.total_concat_of_isFinite _ hp
  rw [List.map_append]
  exact Binary.not_isFinite_total_append h _

/-! ## The origin -/

/-- What the sum `b` of a number `a` and zero has to be: it has the bits of `a`, but that negative zero becomes positive
zero, and a NaN may be another one. -/
structure IsPlusZero (a b : Binary f) : Prop where
  nan : a.isNaN → b.isNaN
  negativeZero : a = zero true → b = zero false
  other : a.isNaN = false → a ≠ zero true → b = a

theorem isPlusZero_add (a : Binary f) : IsPlusZero a (a.add (zero false)) := by
  constructor
  · intro h
    exact Binary.add_isNaN_iff.2 (.inl h)
  · rintro rfl
    exact Binary.zero_add_zero true
  · intro hnan hzero
    by_cases h : a.magnitude = 0
    · rw [Binary.eq_zero_of_magnitude h] at hzero ⊢
      cases hside : a.negative with
      | true => exact absurd (hside ▸ rfl) hzero
      | false => exact Binary.zero_add_zero false
    · exact Binary.add_zero_of_ne hnan h

theorem coordinate_add_origin (p : Point (Binary f)) :
    ∃ s, p.add origin = .ok s ∧ origin.add p = .ok s ∧ ∀ axis, IsPlusZero (p.coordinate axis) (s.coordinate axis) := by
  refine ⟨⟨p.x.add (zero false), p.y.add (zero false)⟩, add_binary p origin, ?_, ?_⟩
  · rw [add_binary]
    simp only [origin, Scalar.zero, (zero false).add_comm]
  · intro axis
    cases axis
    · exact isPlusZero_add p.x
    · exact isPlusZero_add p.y

/-- A list of points of binary numbers has a sum, and so has each of its beginnings. On no axis is the sum negative
zero. It is a NaN on an axis if a coordinate is one, or if a beginning of the list has an infinity for its sum and the
opposite infinity follows, and for no other reason. Once the sum is an infinity or a NaN, finite coordinates do not
change it. The origin is neutral on both sides, but that negative zeros lose their sign. -/
theorem total_binary (f : BinaryFormat) :
    (∀ ps : List (Point (Binary f)), ∃ s, total ps = .ok s ∧ ∀ axis,
      s.coordinate axis ≠ zero true ∧
      ((s.coordinate axis).isNaN ↔ (∃ p ∈ ps, (p.coordinate axis).isNaN) ∨
        ∃ qs rs t, ps = qs ++ rs ∧ total qs = .ok t ∧ (t.coordinate axis).isInfinite ∧
          ∃ r ∈ rs, (r.coordinate axis).isInfinite ∧
            (r.coordinate axis).negative ≠ (t.coordinate axis).negative)) ∧
    (∀ (ps qs : List (Point (Binary f))) (p : Point (Binary f)),
      ∃ r s t, total ps = .ok r ∧ total (ps ++ qs) = .ok s ∧ total (ps ++ qs ++ [p]) = .ok t ∧ ∀ axis,
        (r.coordinate axis).isInfinite ∨ (r.coordinate axis).isNaN → (p.coordinate axis).isFinite →
          t.coordinate axis = s.coordinate axis) ∧
    ∀ p : Point (Binary f), ∃ s, p.add origin = .ok s ∧ origin.add p = .ok s ∧ ∀ axis,
      IsPlusZero (p.coordinate axis) (s.coordinate axis) := by
  refine ⟨fun ps => ⟨axisTotals ps, total_eq ps, fun axis => ⟨?_, isNaN_axisTotals_iff⟩⟩, fun ps qs p => ?_,
    coordinate_add_origin⟩
  · rw [coordinate_axisTotals]
    exact Binary.total_ne_zero_true _
  · refine ⟨_, _, _, total_eq ps, total_eq (ps ++ qs), total_eq (ps ++ qs ++ [p]), fun axis h hp => ?_⟩
    apply axisTotals_concat ps qs _ hp
    rcases h with hinf | hnan
    · exact Binary.not_isFinite_of_isInfinite hinf
    · exact Binary.not_isFinite_of_isNaN hnan

/-- The greatest number of single precision. -/
def greatestSingle : Binary .single := ⟨false, 0x7F7FFFFF, by decide⟩

/-- The greatest number twice is an infinity; a finite number leaves it there, and the opposite infinity makes a NaN. -/
theorem total_binary_overflowing :
    (∃ s, total [⟨greatestSingle, zero true⟩, ⟨greatestSingle, zero true⟩, ⟨.infinity true, zero true⟩] = .ok s ∧
      s.x.isNaN ∧ s.y ≠ zero true) ∧
    (∃ s t, total [⟨greatestSingle, zero true⟩, ⟨greatestSingle, zero true⟩] = .ok s ∧ s.x.isInfinite ∧
      greatestSingle.isFinite ∧
      total [⟨greatestSingle, zero true⟩, ⟨greatestSingle, zero true⟩, ⟨greatestSingle, zero true⟩] = .ok t ∧
      t.x = s.x) ∧
    ∃ s, (⟨zero true, .nan⟩ : Point (Binary .single)).add origin = .ok s ∧ s.x = zero false ∧ s.y.isNaN := by
  have htwice : total [⟨greatestSingle, zero true⟩, ⟨greatestSingle, zero true⟩] =
      .ok ⟨.infinity false, zero false⟩ := by decide +kernel
  have hinf : (Binary.infinity false : Binary .single).isInfinite := by decide +kernel
  have hopposite : (Binary.infinity true : Binary .single).isInfinite := by decide +kernel
  have hfinite : greatestSingle.isFinite := by decide +kernel
  obtain ⟨hsum, hlater, horigin⟩ := total_binary .single
  refine ⟨?_, ?_, ?_⟩
  · obtain ⟨s, hs, haxis⟩ :=
      hsum [⟨greatestSingle, zero true⟩, ⟨greatestSingle, zero true⟩, ⟨.infinity true, zero true⟩]
    exact ⟨s, hs, (haxis .x).2.2 (.inr ⟨_, [⟨.infinity true, zero true⟩], _, rfl, htwice, hinf, _,
      List.mem_singleton_self _, hopposite, by decide⟩), (haxis .y).1⟩
  · obtain ⟨r, s, t, hr, hs, ht, haxis⟩ :=
      hlater [⟨greatestSingle, zero true⟩, ⟨greatestSingle, zero true⟩] [] ⟨greatestSingle, zero true⟩
    obtain rfl := Except.ok.inj (htwice.symm.trans hr)
    obtain rfl := Except.ok.inj (htwice.symm.trans hs)
    exact ⟨_, t, htwice, hinf, hfinite, ht, haxis .x (.inl hinf) hfinite⟩
  · obtain ⟨s, hs, -, haxis⟩ := horigin ⟨zero true, .nan⟩
    exact ⟨s, hs, (haxis .x).negativeZero rfl, (haxis .y).nan Binary.nan_isNaN⟩

end Point

end PointSum
