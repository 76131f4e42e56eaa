import Mathlib.Data.List.Induction
import Mathlib.Data.List.Lex
import Mathlib.Data.Prod.Lex
import Mathlib.Order.BoundedOrder.Basic
import PointSum.Log.Filter

/-!
# Which directive decides

* `Directive.specificity d` : what directives are compared by, as one element of a linear order;
* `Decides fs d r` : `d` is about `r`, no directive about `r` before it is more specific, and none behind it is as
  specific; `decides_concat` : what one more directive changes;
* `deciding?_eq_some_iff`, `deciding?_eq_none_iff` : the filter finds this directive, and none only if no directive is
  about the record;
* `shows_iff` : the filter shows the records whose level the deciding directive allows;
* `shows_level` : a filter of one directive without target and field goes by the level alone.
-/

namespace PointSum.Log

set_option autoImplicit false

variable {fs : Filter} {d e : Directive} {r : Record}

/-! ## The order of directives -/

/-- The length of the target, then whether there is a field, then its name. -/
def Directive.specificity (d : Directive) : Nat ×ₗ Bool ×ₗ List Nat :=
  toLex (d.targetWeight, toLex (d.field.isSome, (d.field.getD []).map Char.toNat))

theorem Directive.atLeastAsSpecific_iff : d.atLeastAsSpecific e ↔ e.specificity ≤ d.specificity := by
  unfold atLeastAsSpecific specificity textLt
  rw [Prod.Lex.toLex_le_toLex, Prod.Lex.toLex_le_toLex]
  by_cases hweight : d.targetWeight = e.targetWeight
  · by_cases hfield : d.field.isSome = e.field.isSome
    · simp [hweight, hfield]
    · cases hd : d.field.isSome <;> cases he : e.field.isSome <;> simp_all
  · simp [hweight, Ne.symm hweight]

/-! ## The directive that decides -/

/-- Of the directives about the record this one is the most specific, and the last of the most specific ones. -/
def Decides (fs : Filter) (d : Directive) (r : Record) : Prop :=
  ∃ before after, fs = before ++ d :: after ∧ d.isAbout r ∧
    (∀ e ∈ before, e.isAbout r → e.specificity ≤ d.specificity) ∧
    ∀ e ∈ after, e.isAbout r → e.specificity < d.specificity

theorem Decides.isAbout (h : Decides fs d r) : d.isAbout r := by
  obtain ⟨-, -, -, habout, -⟩ := h
  exact habout

theorem Decides.mem (h : Decides fs d r) : d ∈ fs := by
  obtain ⟨before, after, rfl, -⟩ := h
  simp

theorem Decides.le (h : Decides fs d r) (he : e ∈ fs) (habout : e.isAbout r) : e.specificity ≤ d.specificity := by
  obtain ⟨before, after, rfl, -, hbefore, hafter⟩ := h
  rw [List.mem_append, List.mem_cons] at he
  rcases he with he | rfl | he
  · exact hbefore e he habout
  · exact le_rfl
  · exact (hafter e he habout).le

/-- One more directive decides if it is about the record and none is more specific; else what decided before does. -/
theorem decides_concat : Decides (fs ++ [e]) d r ↔
    (d = e ∧ e.isAbout r ∧ ∀ x ∈ fs, x.isAbout r → x.specificity ≤ e.specificity) ∨
      (Decides fs d r ∧ (e.isAbout r → e.specificity < d.specificity)) := by
  constructor
  · intro h
    obtain ⟨before, after, happ, habout, hbefore, hafter⟩ := h
    rcases List.eq_nil_or_concat after with rfl | ⟨after, x, rfl⟩
    · obtain ⟨rfl, hx⟩ := List.append_inj' happ rfl
      obtain rfl : e = d := (List.cons.inj hx).1
      exact .inl ⟨rfl, habout, hbefore⟩
    · rw [List.concat_eq_append, ← List.cons_append, ← List.append_assoc] at happ
      obtain ⟨rfl, hx⟩ := List.append_inj' happ rfl
      obtain rfl : e = x := (List.cons.inj hx).1
      rw [List.concat_eq_append] at hafter
      exact .inr ⟨⟨before, after, rfl, habout, hbefore, fun y hy => hafter y (List.mem_append_left _ hy)⟩,
        hafter e (by simp)⟩
  · intro h
    rcases h with ⟨rfl, habout, hle⟩ | ⟨⟨before, after, rfl, habout, hbefore, hafter⟩, hlt⟩
    · exact ⟨fs, [], rfl, habout, hle, by simp⟩
    · refine ⟨before, after ++ [e], by simp, habout, hbefore, fun x hx => ?_⟩
      rcases List.mem_append.1 hx with hx | hx
      · exact hafter x hx
      · rw [List.mem_singleton.1 hx]
        exact hlt

namespace Filter

theorem deciding?_concat : deciding? (fs ++ [e]) r =
    if e.isAbout r then
      match deciding? fs r with
      | none => some e
      | some b => if e.atLeastAsSpecific b then some e else some b
    else deciding? fs r := by
  rw [deciding?, List.foldl_append]
  rfl

theorem deciding?_eq_none_iff : fs.deciding? r = none ↔ ∀ e ∈ fs, ¬ e.isAbout r := by
  induction fs using List.reverseRecOn with
  | nil => simp [deciding?]
  | append_singleton fs e ih =>
    rw [deciding?_concat]
    by_cases habout : e.isAbout r
    · cases deciding? fs r with
      | none => simp [habout]
      | some b =>
        by_cases hb : e.atLeastAsSpecific b <;> simp [habout, hb]
    · rw [if_neg habout, ih]
      simp [or_imp, forall_and, habout]

theorem deciding?_eq_some_iff : fs.deciding? r = some d ↔ Decides fs d r := by
  -- Directives are added at the end, as the fold over the filter takes them up.
  induction fs using List.reverseRecOn generalizing d with
  | nil => simp [deciding?, Decides]
  | append_singleton fs e ih =>
    rw [deciding?_concat, decides_concat]
    by_cases habout : e.isAbout r
    · rw [if_pos habout]
      cases hb : deciding? fs r with
      | none =>
        have hnone := deciding?_eq_none_iff.1 hb
        have hle : ∀ x ∈ fs, x.isAbout r → x.specificity ≤ e.specificity := fun x hx h => absurd h (hnone x hx)
        have hfs : ¬ Decides fs d r := fun h => hnone d h.mem h.isAbout
        simpa [hfs, habout] using ⟨fun h => ⟨h.symm, hle⟩, fun h => h.1.symm⟩
      | some b =>
        have hbest := ih.1 hb
        have hd : Decides fs d r ↔ d = b := by rw [← ih, hb, Option.some.injEq, eq_comm]
        simp only [hd, habout, forall_const, true_and, Directive.atLeastAsSpecific_iff]
        split
        · next hle =>
          have hfs : ∀ x ∈ fs, x.isAbout r → x.specificity ≤ e.specificity := fun x hx h => (hbest.le hx h).trans hle
          have hlt : ¬ (d = b ∧ e.specificity < d.specificity) := by
            intro h
            rw [h.1] at h
            exact h.2.not_ge hle
          simp only [hlt, or_false, Option.some.injEq]
          exact ⟨fun h => ⟨h.symm, hfs⟩, fun h => h.1.symm⟩
        · next hle =>
          have hfs : ¬ ∀ x ∈ fs, x.isAbout r → x.specificity ≤ e.specificity :=
            fun h => hle (h b hbest.mem hbest.isAbout)
          have hlt : d = b → e.specificity < d.specificity := by
            intro h
            rw [h]
            exact not_le.1 hle
          simp only [hfs, and_false, false_or, Option.some.injEq]
          exact ⟨fun h => ⟨h.symm, hlt h.symm⟩, fun h => h.1.symm⟩
    · rw [if_neg habout, ih]
      simp [habout]

theorem shows_iff : fs.shows r ↔ ∃ d, Decides fs d r ∧ r.level.rank ≤ d.threshold := by
  simp only [← deciding?_eq_some_iff, shows]
  cases fs.deciding? r <;> simp

theorem shows_level (n : Threshold) (r : Record) : shows [⟨none, none, n⟩] r = decide (r.level.rank ≤ n) := rfl

end Filter

end PointSum.Log
