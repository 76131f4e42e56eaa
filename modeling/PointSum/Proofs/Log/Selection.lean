import PointSum.Proofs.Log.Clause
import PointSum.Proofs.Log.Filter

/-!
# What clauses select together

Clauses are a map from targets to levels, and a record goes by the longest target in the map that its own begins with.

* `levelOf ds t` : the level that the clauses `ds` give the target `t`, which the last clause for it decides;
* `levelOf_perm`, `levelOf_overridden`, `levelOf_replace` : what clauses in another order, without one that a later one
  overrides, and with another level give;
* `Allows ds w` : the clauses allow the record `w`; `shows_iff_allows` : the filter shows the records that they allow;
* `Allows.mono` : clauses for the same targets with levels as detailed allow as much.
-/

namespace PointSum.Log

set_option autoImplicit false

open Text

variable {d e : Clause} {ds es before after block block' : List Clause} {w : Record} {n : Threshold}
  {s t : Option (List Char)}

/-! ## The level of a target -/

/-- The level that the clauses give a target, or all targets: that of the last clause for it. -/
def levelOf (ds : List Clause) (t : Option (List Char)) : Option Threshold :=
  (ds.filter (·.target? = t)).getLast?.map Clause.threshold

theorem levelOf_append (ds es : List Clause) (t : Option (List Char)) :
    levelOf (ds ++ es) t = (levelOf es t).or (levelOf ds t) := by
  rw [levelOf, List.filter_append, List.getLast?_append, Option.map_or]
  rfl

theorem levelOf_cons (d : Clause) (ds : List Clause) (t : Option (List Char)) :
    levelOf (d :: ds) t = (levelOf ds t).or (if d.target? = t then some d.threshold else none) := by
  rw [← List.singleton_append, levelOf_append]
  by_cases h : d.target? = t <;> simp [levelOf, h]

theorem levelOf_eq_none_iff : levelOf ds t = none ↔ ∀ d ∈ ds, d.target? ≠ t := by
  simp [levelOf]

theorem levelOf_eq_some_iff : levelOf ds t = some n ↔
    ∃ before d after, ds = before ++ d :: after ∧ d.target? = t ∧ d.threshold = n ∧
      ∀ e ∈ after, e.target? ≠ t := by
  constructor
  · intro h
    induction ds using List.reverseRecOn with
    | nil => cases h
    | append_singleton ds e ih =>
      rw [levelOf_append, levelOf_cons] at h
      by_cases he : e.target? = t
      · rw [if_pos he] at h
        exact ⟨ds, e, [], rfl, he, Option.some.inj h, by simp⟩
      · rw [if_neg he] at h
        obtain ⟨before, d, after, rfl, hd, hn, hafter⟩ := ih h
        refine ⟨before, d, after ++ [e], by simp, hd, hn, fun x hx => ?_⟩
        rcases List.mem_append.1 hx with hx | hx
        · exact hafter x hx
        · rwa [List.mem_singleton.1 hx]
  · rintro ⟨before, d, after, rfl, hd, rfl, hafter⟩
    rw [levelOf_append, levelOf_cons, levelOf_eq_none_iff.2 hafter, if_pos hd]
    rfl

/-- Clauses for different targets may stand in any order. -/
theorem levelOf_perm (h : block.Perm block') (hdistinct : (block.map Clause.target?).Nodup)
    (t : Option (List Char)) : levelOf block t = levelOf block' t := by
  induction h with
  | nil => rfl
  | cons d _ ih => rw [levelOf_cons, levelOf_cons, ih (List.nodup_cons.1 hdistinct).2]
  | swap d e ds =>
    rw [List.map_cons, List.map_cons, List.nodup_cons] at hdistinct
    have hne : e.target? ≠ d.target? := fun h => hdistinct.1 (h ▸ List.mem_cons_self)
    simp only [levelOf_cons, Option.or_assoc]
    by_cases hd : d.target? = t
    · have he : e.target? ≠ t := hd ▸ hne
      rw [if_neg he, Option.or_none, Option.none_or]
    · rw [if_neg hd, Option.or_none, Option.none_or]
  | trans h _ ih ih' => exact (ih hdistinct).trans (ih' ((h.map Clause.target?).nodup_iff.1 hdistinct))

theorem levelOf_overridden (h : d.target? ∈ after.map Clause.target?) (t : Option (List Char)) :
    levelOf (d :: after) t = levelOf after t := by
  rw [levelOf_cons]
  by_cases hd : d.target? = t
  · subst hd
    obtain ⟨e, he, htarget⟩ := List.mem_map.1 h
    cases hlevel : levelOf after d.target? with
    | none => exact absurd htarget (levelOf_eq_none_iff.1 hlevel e he)
    | some n => rfl
  · rw [if_neg hd, Option.or_none]

theorem rel_refl (o : Option Threshold) : Option.Rel (· ≤ ·) o o := by
  cases o with
  | none => exact .none
  | some n => exact .some le_rfl

/-- A clause with another level for the same target changes the level of this target at most. -/
theorem levelOf_replace (htarget : e.target? = d.target?) (hle : d.threshold ≤ e.threshold)
    (t : Option (List Char)) :
    Option.Rel (· ≤ ·) (levelOf (before ++ d :: after) t) (levelOf (before ++ e :: after) t) := by
  rw [levelOf_append, levelOf_append, levelOf_cons, levelOf_cons, htarget]
  by_cases hd : d.target? = t
  · rw [if_pos hd, if_pos hd]
    cases levelOf after t with
    | none => exact .some hle
    | some n => exact rel_refl _
  · rw [if_neg hd, if_neg hd]
    exact rel_refl _

/-! ## Records -/

/-- The target of the record begins with the target, if there is one. -/
def Fronts (t : Option (List Char)) (w : Record) : Prop := ∀ cs ∈ t, cs <+: w.target.toList

/-- How long a target is: longer by one than its characters, so that it is longer than none. -/
def reach (t : Option (List Char)) : Nat :=
  (t.map (·.length + 1)).getD 0

/-- Of the targets in the clauses that the record's target begins with, the longest one is given a level that allows
the record. The clauses without a target only count where there is no other. -/
def Allows (ds : List Clause) (w : Record) : Prop :=
  ∃ t n, levelOf ds t = some n ∧ Fronts t w ∧ (∀ d ∈ ds, Fronts d.target? w → reach d.target? ≤ reach t) ∧
    w.level.rank ≤ n

theorem not_allows_nil : ¬ Allows [] w := by
  rintro ⟨t, n, h, -⟩
  cases h

theorem Allows.mono (h : ∀ t, Option.Rel (· ≤ ·) (levelOf ds t) (levelOf es t)) (hds : Allows ds w) :
    Allows es w := by
  obtain ⟨t, n, hn, hfronts, hlongest, hle⟩ := hds
  have ht := h t
  rw [hn] at ht
  cases hm : levelOf es t with
  | none =>
    rw [hm] at ht
    cases ht
  | some m =>
    rw [hm] at ht
    obtain ⟨hnm⟩ := ht
    refine ⟨t, m, hm, hfronts, fun e he hew => ?_, hle.trans hnm⟩
    -- The clauses are for the same targets, since a target has a level on both sides or on neither.
    have hte := h e.target?
    cases hlevel : levelOf ds e.target? with
    | none =>
      rw [hlevel] at hte
      cases hnone : levelOf es e.target? with
      | none => exact absurd rfl (levelOf_eq_none_iff.1 hnone e he)
      | some k =>
        rw [hnone] at hte
        cases hte
    | some k =>
      obtain ⟨_, d, _, rfl, hd, -⟩ := levelOf_eq_some_iff.1 hlevel
      rw [← hd] at hew ⊢
      exact hlongest d (by simp) hew

theorem allows_congr (h : ∀ t, levelOf ds t = levelOf es t) : Allows ds w ↔ Allows es w := by
  exact ⟨Allows.mono fun t => h t ▸ rel_refl _, Allows.mono fun t => h t ▸ rel_refl _⟩

/-! ## The filter of the clauses -/

theorem isAbout_directive : d.directive.isAbout w ↔ Fronts d.target? w := by
  cases h : d.target? <;> simp [Directive.isAbout, Clause.directive, Fronts, h]

theorem length_encode {cs : List Char} (h : ∀ c ∈ cs, isWordChar c) : (encode cs).length = cs.length := by
  induction cs with
  | nil => rfl
  | cons c cs ih =>
    obtain ⟨hc, hcs⟩ := List.forall_mem_cons.1 h
    have hlt : c.toNat ≤ 127 := Nat.le_of_lt_succ (isWordChar_lt hc)
    have hsize : c.utf8Size = 1 := Char.utf8Size_eq_one_iff.2 (UInt32.le_iff_toNat_le.2 hlt)
    rw [encode, List.flatMap_cons, List.length_append, String.length_utf8EncodeChar, hsize, ← encode, ih hcs,
      List.length_cons, Nat.add_comm]

/-- Targets are words, so they are as long in bytes as in characters. -/
theorem targetWeight_directive (d : Clause) : d.directive.targetWeight = reach d.target? := by
  cases d with
  | level => rfl
  | target word h => exact congrArg (· + 1) (length_encode h.isWordChar)
  | both word ls n h => exact congrArg (· + 1) (length_encode h.isWordChar)

theorem specificity_le_iff :
    d.directive.specificity ≤ e.directive.specificity ↔ reach d.target? ≤ reach e.target? := by
  rw [← targetWeight_directive, ← targetWeight_directive, Directive.specificity, Directive.specificity,
    Prod.Lex.toLex_le_toLex]
  simp only [Clause.directive, Option.isSome_none, Option.getD_none, le_refl, and_true]
  exact le_iff_lt_or_eq.symm

/-- Two targets that the target of the record begins with are the same if they are as long. -/
theorem Fronts.eq_of_reach (hs : Fronts s w) (ht : Fronts t w) (h : reach s = reach t) : s = t := by
  cases s with
  | none =>
    cases t with
    | none => rfl
    | some cs => simp [reach] at h
  | some cs =>
    cases t with
    | none => simp [reach] at h
    | some cs' =>
      have hlength : cs.length = cs'.length := by simpa [reach] using h
      have hle : cs <+: cs' := List.prefix_of_prefix_length_le (hs cs rfl) (ht cs' rfl) hlength.le
      exact congrArg some (hle.eq_of_length hlength)

/-- The filter shows the records that the clauses allow. -/
theorem shows_iff_allows : Filter.shows (ds.map Clause.directive) w ↔ Allows ds w := by
  rw [Filter.shows_iff]
  constructor
  · rintro ⟨_, hdecides, hle⟩
    have hlongest : ∀ x ∈ ds.map Clause.directive, x.isAbout w → x.specificity ≤ _ := fun x => hdecides.le
    obtain ⟨fore, aft, happ, habout, -, hafter⟩ := hdecides
    obtain ⟨before, rest, rfl, rfl, hrest⟩ := List.map_eq_append_iff.1 happ
    obtain ⟨d, after, rfl, rfl, rfl⟩ := List.map_eq_cons_iff.1 hrest
    have hfronts : Fronts d.target? w := isAbout_directive.1 habout
    refine ⟨d.target?, d.threshold, levelOf_eq_some_iff.2 ⟨before, d, after, rfl, rfl, rfl, ?_⟩, hfronts, ?_, hle⟩
    · intro e he htarget
      have hlt := hafter e.directive (List.mem_map_of_mem he) (isAbout_directive.2 (htarget ▸ hfronts))
      exact hlt.not_ge (specificity_le_iff.2 (le_of_eq (congrArg reach htarget.symm)))
    · intro e he hew
      exact specificity_le_iff.1 (hlongest _ (List.mem_map_of_mem he) (isAbout_directive.2 hew))
  · rintro ⟨_, _, hlevel, hfronts, hlongest, hle⟩
    obtain ⟨before, d, after, rfl, rfl, rfl, hafter⟩ := levelOf_eq_some_iff.1 hlevel
    refine ⟨d.directive, ⟨before.map Clause.directive, after.map Clause.directive, by simp, isAbout_directive.2 hfronts,
      ?_, ?_⟩, hle⟩
    · intro _ hx habout
      obtain ⟨e, he, rfl⟩ := List.mem_map.1 hx
      exact specificity_le_iff.2 (hlongest e (by simp [he]) (isAbout_directive.1 habout))
    · intro _ hx habout
      obtain ⟨e, he, rfl⟩ := List.mem_map.1 hx
      have hew := isAbout_directive.1 habout
      have hreach := hlongest e (by simp [he]) hew
      rw [← not_le, specificity_le_iff]
      exact fun h => hafter e he (hew.eq_of_reach hfronts (le_antisymm hreach h))

end PointSum.Log
