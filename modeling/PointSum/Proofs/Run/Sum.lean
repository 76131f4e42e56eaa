import Mathlib.Order.ConditionallyCompleteLattice.Finset
import Mathlib.Data.Int.ConditionallyCompleteOrder
import PointSum.Proofs.Point.Sum
import PointSum.Run

/-!
# Sums of points given as text

* `readPoints_eq_ok_iff`, `readPoints_eq_error_iff` : two points are read, or the fault is of the first one that is
  none;
* `sumText_int`, `sumText_float` : both modes read the points, add them and write the sum; `sumText_int_eq_ok_iff`,
  `sumText_int_eq_error_iff`, `sumText_float_eq_ok_iff` : when there is a text, and when not;
* `sumText_integers_iff` : integers have a sum if both coordinates of it are in range, and else the fault says why,
  the text on the left before the one on the right and the first axis before the second;
* `Starts s` : the filter of the surroundings is read without a trap; `run_of_filter`, `run_of_trap` : what a run is if
  it is, and if it is not;
* `Surroundings.ofWords` : surroundings for a run in a mode; `run_status_eq_zero_iff`, `run_output` : a run that starts
  and adds succeeds with the text of the sum.
-/

namespace PointSum

set_option autoImplicit false

open Number

variable {lhs rhs t : String} {e : SumFault}

section Scalars

variable {α : Type} [Scalar α] {p q : Point α}

theorem readPoints_eq_ok_iff :
    readPoints α lhs rhs = .ok (p, q) ↔ Point.read α lhs = .ok p ∧ Point.read α rhs = .ok q := by
  unfold readPoints
  cases Point.read α lhs with
  | error e => simp
  | ok a => cases Point.read α rhs <;> simp

/-- The fault of the left text goes before that of the right one. -/
theorem readPoints_eq_error_iff :
    readPoints α lhs rhs = .error e ↔
      (∃ c, Point.read α lhs = .error c ∧ e = .point c) ∨
        ∃ p c, Point.read α lhs = .ok p ∧ Point.read α rhs = .error c ∧ e = .point c := by
  unfold readPoints
  cases Point.read α lhs with
  | error c => simp [eq_comm]
  | ok a => cases Point.read α rhs <;> simp [eq_comm]

end Scalars

/-- Both modes read the points, add them and write the sum. -/
theorem sumText_int (lhs rhs : String) :
    sumText .int lhs rhs = (readPoints (Word .int64) lhs rhs).bind fun (p, q) =>
      ((p.add? q).mapError SumFault.overflow).map Point.text := by
  unfold sumText
  cases readPoints (Word .int64) lhs rhs with
  | error e => rfl
  | ok pq =>
    obtain ⟨p, q⟩ := pq
    simp only [Except.bind]
    cases p.add? q <;> rfl

theorem sumText_float (lhs rhs : String) :
    sumText .float lhs rhs = (readPoints (Binary .double) lhs rhs).bind fun (p, q) =>
      ((p.add q).mapError SumFault.trap).map Point.text := by
  unfold sumText
  cases readPoints (Binary .double) lhs rhs with
  | error e => rfl
  | ok pq =>
    obtain ⟨p, q⟩ := pq
    simp only [Except.bind]
    cases p.add q <;> rfl

section Sums

variable {α ε : Type} [Scalar α] {add : Point α → Point α → Except ε (Point α)} {fault : ε → SumFault}

theorem bind_readPoints_eq_ok_iff :
    ((readPoints α lhs rhs).bind fun (p, q) => ((add p q).mapError fault).map Point.text) = .ok t ↔
      ∃ p q sum, Point.read α lhs = .ok p ∧ Point.read α rhs = .ok q ∧ add p q = .ok sum ∧ t = sum.text := by
  constructor
  · intro h
    cases hpq : readPoints α lhs rhs with
    | error e => simp [hpq, Except.bind] at h
    | ok pq =>
      obtain ⟨p, q⟩ := pq
      obtain ⟨hp, hq⟩ := readPoints_eq_ok_iff.1 hpq
      cases hsum : add p q with
      | error o => simp [hpq, hsum, Except.bind, Except.mapError, Except.map] at h
      | ok sum =>
        simp only [hpq, hsum, Except.bind, Except.mapError, Except.map, Except.ok.injEq] at h
        exact ⟨p, q, sum, hp, hq, hsum, h.symm⟩
  · rintro ⟨p, q, sum, hp, hq, hsum, rfl⟩
    simp only [readPoints_eq_ok_iff.2 ⟨hp, hq⟩, Except.bind, hsum]
    rfl

theorem bind_readPoints_eq_error_iff :
    ((readPoints α lhs rhs).bind fun (p, q) => ((add p q).mapError fault).map Point.text) = .error e ↔
      readPoints α lhs rhs = .error e ∨
        ∃ p q o, Point.read α lhs = .ok p ∧ Point.read α rhs = .ok q ∧ add p q = .error o ∧ e = fault o := by
  constructor
  · intro h
    cases hpq : readPoints α lhs rhs with
    | error c =>
      simp only [hpq, Except.bind, Except.error.injEq] at h
      exact .inl (congrArg _ h)
    | ok pq =>
      obtain ⟨p, q⟩ := pq
      obtain ⟨hp, hq⟩ := readPoints_eq_ok_iff.1 hpq
      cases hsum : add p q with
      | ok sum => simp [hpq, hsum, Except.bind, Except.mapError, Except.map] at h
      | error o =>
        simp only [hpq, hsum, Except.bind, Except.mapError, Except.map, Except.error.injEq] at h
        exact .inr ⟨p, q, o, hp, hq, hsum, h.symm⟩
  · rintro (h | ⟨p, q, o, hp, hq, ho, rfl⟩)
    · rw [h]
      rfl
    · simp only [readPoints_eq_ok_iff.2 ⟨hp, hq⟩, Except.bind, ho]
      rfl

end Sums

theorem sumText_int_eq_ok_iff : sumText .int lhs rhs = .ok t ↔
    ∃ p q sum, Point.read (Word .int64) lhs = .ok p ∧ Point.read (Word .int64) rhs = .ok q ∧
      p.add? q = .ok sum ∧ t = sum.text := by
  rw [sumText_int, bind_readPoints_eq_ok_iff]

theorem sumText_int_eq_error_iff : sumText .int lhs rhs = .error e ↔
    readPoints (Word .int64) lhs rhs = .error e ∨
      ∃ p q o, Point.read (Word .int64) lhs = .ok p ∧ Point.read (Word .int64) rhs = .ok q ∧
        p.add? q = .error o ∧ e = .overflow o := by
  rw [sumText_int, bind_readPoints_eq_error_iff]

theorem sumText_float_eq_ok_iff : sumText .float lhs rhs = .ok t ↔
    ∃ p q sum, Point.read (Binary .double) lhs = .ok p ∧ Point.read (Binary .double) rhs = .ok q ∧
      p.add q = .ok sum ∧ t = sum.text := by
  rw [sumText_float, bind_readPoints_eq_ok_iff]

/-! ## Integers -/

theorem holds_int64_iff (n : Int) : WordFormat.int64.Holds n ↔ n ∈ Set.Icc (-2 ^ 63) (2 ^ 63 - 1) := Iff.rfl

/-- Two texts have a sum of integers if both are points and both sums are in range, and it is written in decimal. Else
the fault is of the text on the left, or of the one on the right if that on the left is a point, or an overflow of the
first axis, or one of the second axis if the first one has a sum. An overflow shows the coordinates in decimal, however
they were written, and no addition traps. -/
theorem sumText_integers_iff (lhs rhs : String) :
    (∀ t, sumText .int lhs rhs = .ok t ↔
      ∃ p q, Point.read (Word .int64) lhs = .ok p ∧ Point.read (Word .int64) rhs = .ok q ∧
        p.x.toInt + q.x.toInt ∈ Set.Icc (-2 ^ 63) (2 ^ 63 - 1) ∧
        p.y.toInt + q.y.toInt ∈ Set.Icc (-2 ^ 63) (2 ^ 63 - 1) ∧
        t = "(" ++ toString (p.x.toInt + q.x.toInt) ++ ", " ++ toString (p.y.toInt + q.y.toInt) ++ ")") ∧
    (∀ e, sumText .int lhs rhs = .error e ↔
      (∃ c, Point.read (Word .int64) lhs = .error c ∧ e = .point c) ∨
      (∃ p c, Point.read (Word .int64) lhs = .ok p ∧ Point.read (Word .int64) rhs = .error c ∧ e = .point c) ∨
      ∃ p q, Point.read (Word .int64) lhs = .ok p ∧ Point.read (Word .int64) rhs = .ok q ∧
        (p.x.toInt + q.x.toInt ∉ Set.Icc (-2 ^ 63) (2 ^ 63 - 1) ∧
            e = .overflow ⟨.x, toString p.x.toInt, toString q.x.toInt⟩ ∨
          p.x.toInt + q.x.toInt ∈ Set.Icc (-2 ^ 63) (2 ^ 63 - 1) ∧
            p.y.toInt + q.y.toInt ∉ Set.Icc (-2 ^ 63) (2 ^ 63 - 1) ∧
            e = .overflow ⟨.y, toString p.y.toInt, toString q.y.toInt⟩)) ∧
    ∀ trap, sumText .int lhs rhs ≠ .error (.trap trap) := by
  simp only [← holds_int64_iff]
  refine ⟨fun t => ?_, fun e => ?_, fun trap h => ?_⟩
  · rw [sumText_int_eq_ok_iff]
    constructor
    · rintro ⟨p, q, sum, hp, hq, hsum, rfl⟩
      obtain ⟨hx, hy⟩ := Point.add?_word_eq_ok_iff.1 hsum
      refine ⟨p, q, hp, hq, hx ▸ sum.x.holds_toInt, hy ▸ sum.y.holds_toInt, ?_⟩
      rw [Point.text_word, hx, hy]
    · rintro ⟨p, q, hp, hq, hx, hy, rfl⟩
      obtain ⟨sum, hsum⟩ := Point.exists_add?_word hx hy
      refine ⟨p, q, sum, hp, hq, hsum, ?_⟩
      obtain ⟨hx, hy⟩ := Point.add?_word_eq_ok_iff.1 hsum
      rw [Point.text_word, hx, hy]
  · rw [sumText_int_eq_error_iff, readPoints_eq_error_iff, or_assoc]
    refine or_congr_right (or_congr_right (exists_congr fun p => exists_congr fun q => ?_))
    constructor
    · rintro ⟨o, hp, hq, ho, rfl⟩
      refine ⟨hp, hq, ?_⟩
      rcases Point.add?_word_eq_error_iff.1 ho with ⟨hx, rfl⟩ | ⟨hx, hy, rfl⟩
      · exact .inl ⟨hx, rfl⟩
      · exact .inr ⟨hx, hy, rfl⟩
    · rintro ⟨hp, hq, ⟨hx, rfl⟩ | ⟨hx, hy, rfl⟩⟩
      · exact ⟨_, hp, hq, Point.add?_word_eq_error_iff.2 (.inl ⟨hx, rfl⟩), rfl⟩
      · exact ⟨_, hp, hq, Point.add?_word_eq_error_iff.2 (.inr ⟨hx, hy, rfl⟩), rfl⟩
  · rcases sumText_int_eq_error_iff.1 h with h | ⟨p, q, o, -, -, -, h⟩
    · rcases readPoints_eq_error_iff.1 h with ⟨c, -, h⟩ | ⟨p, c, -, -, h⟩ <;> cases h
    · cases h

/-! ## Runs -/

/-- The filter of the surroundings is read without a trap, so that a run gets to its command line. -/
def Starts (s : Surroundings) : Prop := ∃ fs, Log.Filter.ofSetting s.filter = .ok fs

/-- The surroundings with the words on the command line and a mode asked for in the environment, and nothing else. -/
def Surroundings.ofWords (words : List String) (mode : String) : Surroundings where
  arguments := words.map fun w => Text.encode w.toList
  numeric := some (Text.encode mode.toList)
  filter := none
  home := ""
  config := .missing

variable {s : Surroundings} {r : CommandLine.Request} {fs : Log.Filter} {trap : Log.FilterTrap}

/-- Where no filter is given nothing traps. -/
theorem starts_of_none (h : s.filter = none) : Starts s := by
  rw [Starts, h]
  exact ⟨_, rfl⟩

theorem run_of_filter (h : Log.Filter.ofSetting s.filter = .ok fs) :
    run s = { runUnfiltered s with log := fs.select (runUnfiltered s).log } := by
  simp only [run, h]

theorem run_of_trap (h : Log.Filter.ofSetting s.filter = .error trap) :
    run s = ⟨101, "", s.report (.filter trap), []⟩ := by
  simp only [run, h, trapped]

theorem not_starts_of_trap (h : Log.Filter.ofSetting s.filter = .error trap) : ¬ Starts s := by
  rintro ⟨fs, hfs⟩
  rw [h] at hfs
  cases hfs

theorem run_status_eq_zero_iff (hr : CommandLine.read s.arguments = .ok r) :
    (run s).status = 0 ↔ Starts s ∧ ∃ t, sumText (chooseMode s).1 r.lhs r.rhs = .ok t := by
  cases hfilter : Log.Filter.ofSetting s.filter with
  | error trap => simp [run_of_trap hfilter, not_starts_of_trap hfilter]
  | ok fs =>
    simp only [run_of_filter hfilter, runUnfiltered, hr, runRequest, Starts, hfilter]
    cases sumText (chooseMode s).1 r.lhs r.rhs with
    | error e => cases e <;> simp [faulted, trapped]
    | ok t => simp

theorem run_output (hstarts : Starts s) (hr : CommandLine.read s.arguments = .ok r)
    (ht : sumText (chooseMode s).1 r.lhs r.rhs = .ok t) : (run s).output = t ++ "\n" := by
  obtain ⟨fs, hfilter⟩ := hstarts
  simp only [run_of_filter hfilter, runUnfiltered, hr, runRequest, ht]

end PointSum
