import PointSum.Proofs.Log.Selection
import PointSum.Proofs.Run.Log

/-!
# The log under the clauses of a filter

* `logUnder s items` : the log of the run `s` where the filter is set to the clauses, with empty directives among them;
* `mem_logUnder_iff` : it holds the records that the clauses allow; `logUnder_congr` : clauses that give targets the
  same levels leave the same log;
* `log_of_clauses` : clauses are a map from targets to levels in which the most specific target wins, for all runs.
-/

namespace PointSum

set_option autoImplicit false

open Text Settings Log

variable {s : Surroundings} {w : Record} {items items' : List (Option Clause)}

/-- The log of the run where the filter is set to the clauses. A clause that is missing leaves an empty directive. -/
def logUnder (s : Surroundings) (items : List (Option Clause)) : List Record :=
  (run { s with filter := some (encode (filterText items)) }).log

/-- The filter of clauses. Without any clause errors are shown. -/
def filterOf (items : List (Option Clause)) : Filter :=
  if items.reduceOption = [] then [⟨none, none, Level.error.rank⟩] else items.reduceOption.map Clause.directive

/-- A setting of clauses never traps. -/
theorem ofSetting_filterText (items : List (Option Clause)) :
    Filter.ofSetting (some (encode (filterText items))) = .ok (filterOf items) := by
  rw [ofSetting_encode, read_filterText, filterOf]

/-- The records of a run go by what the clauses allow. Without any clause errors are shown, and no run has one. -/
theorem shows_filterOf (items : List (Option Clause)) (hw : w ∈ (runUnfiltered s).log) :
    (filterOf items).shows w ↔ Allows items.reduceOption w := by
  unfold filterOf
  by_cases hnil : items.reduceOption = []
  · rw [if_pos hnil, hnil, iff_false_right not_allows_nil, Filter.shows_level]
    rcases (logs_of_mem hw).level with h | h
    · rw [h]
      decide
    · rw [h]
      decide
  · rw [if_neg hnil, shows_iff_allows]

theorem mem_logUnder_iff : w ∈ logUnder s items ↔ w ∈ (runUnfiltered s).log ∧ Allows items.reduceOption w := by
  rw [logUnder, log_run s (ofSetting_filterText items), List.mem_filter]
  exact and_congr_right fun hw => shows_filterOf items hw

theorem logUnder_congr (h : ∀ t, levelOf items.reduceOption t = levelOf items'.reduceOption t) :
    logUnder s items = logUnder s items' := by
  rw [logUnder, logUnder, log_run s (ofSetting_filterText items), log_run s (ofSetting_filterText items')]
  apply List.filter_congr
  intro w hw
  rw [Bool.eq_iff_iff, shows_filterOf items hw, shows_filterOf items' hw]
  exact allows_congr h

/-- In every run the clauses of a filter are a map from targets to levels. A record is shown if its level is allowed by
the longest target in the map that its own target begins with, or, where there is none, by the level without a target;
the last clause for a target gives its level. So empty directives make no difference, nor does the order of clauses for
different targets, nor a clause for a target that a later one is for; and a clause with a more detailed level takes no
record away. -/
theorem log_of_clauses (s : Surroundings) :
    (∀ items w, w ∈ logUnder s items ↔ w ∈ (runUnfiltered s).log ∧ Allows items.reduceOption w) ∧
    (∀ before after, logUnder s (before ++ none :: after) = logUnder s (before ++ after)) ∧
    (∀ before block block' after, block.Perm block' → (block.reduceOption.map Clause.target?).Nodup →
      logUnder s (before ++ block ++ after) = logUnder s (before ++ block' ++ after)) ∧
    (∀ before d after, d.target? ∈ after.reduceOption.map Clause.target? →
      logUnder s (before ++ some d :: after) = logUnder s (before ++ after)) ∧
    ∀ before d e after, e.target? = d.target? → d.threshold ≤ e.threshold →
      logUnder s (before ++ some d :: after) ⊆ logUnder s (before ++ some e :: after) := by
  refine ⟨fun _ _ => mem_logUnder_iff, ?_, ?_, ?_, ?_⟩
  · intro before after
    apply logUnder_congr
    intro t
    rw [List.reduceOption_append, List.reduceOption_append, List.reduceOption_cons_of_none]
  · intro before block block' after hperm hdistinct
    apply logUnder_congr
    intro t
    have hblock := levelOf_perm (hperm.filterMap id) hdistinct t
    simp only [List.reduceOption_append, levelOf_append]
    exact congrArg (fun o => (levelOf after.reduceOption t).or (Option.or o _)) hblock
  · intro before d after hlater
    apply logUnder_congr
    intro t
    simp only [List.reduceOption_append, List.reduceOption_cons_of_some, levelOf_append, levelOf_overridden hlater]
  · intro before d e after htarget hle w hw
    rw [mem_logUnder_iff] at hw ⊢
    refine ⟨hw.1, hw.2.mono fun t => ?_⟩
    rw [List.reduceOption_append, List.reduceOption_append, List.reduceOption_cons_of_some,
      List.reduceOption_cons_of_some]
    exact levelOf_replace htarget hle t

/-- Warnings of all targets. -/
def Log.Clause.warnings : Clause :=
  .level "WARN".toList 2 ((readThreshold_eq_some_iff (by decide)).1 (by decide +kernel))

/-- All records of the targets that begin with `planar`. -/
def Log.Clause.planar : Clause :=
  .target "planar".toList (by decide +kernel)

/-- No record about settings. -/
def Log.Clause.quiet : Clause :=
  .both "planar::config".toList "0".toList 0 (by decide +kernel)
    ((readThreshold_eq_some_iff (by decide)).1 (by decide +kernel))

/-- The records about settings down to debugging. -/
def Log.Clause.debugging : Clause :=
  .both "planar::config".toList "Debug".toList 4 (by decide +kernel)
    ((readThreshold_eq_some_iff (by decide)).1 (by decide +kernel))

/-- Clauses that overlap: in another order, with one that is overridden, and with a more detailed level. -/
theorem log_of_clauses_overlap :
    ([some Clause.warnings, none, some .planar].Perm [some .planar, some .warnings, none] ∧
      ([some Clause.warnings, none, some .planar].reduceOption.map Clause.target?).Nodup ∧
      logUnder .unresolved ([] ++ [some Clause.warnings, none, some .planar] ++ [some .quiet]) =
        logUnder .unresolved ([] ++ [some Clause.planar, some .warnings, none] ++ [some .quiet])) ∧
    (Clause.quiet.target? ∈ [none, some Clause.debugging].reduceOption.map Clause.target? ∧
      logUnder .unresolved ([some Clause.planar] ++ some .quiet :: [none, some .debugging]) =
        logUnder .unresolved ([some Clause.planar] ++ [none, some .debugging])) ∧
    (Clause.debugging.target? = Clause.quiet.target? ∧ Clause.quiet.threshold ≤ Clause.debugging.threshold ∧
      logUnder .unresolved ([some Clause.planar] ++ some .quiet :: []) ⊆
        logUnder .unresolved ([some Clause.planar] ++ some .debugging :: [])) := by
  obtain ⟨-, -, hperm, hoverridden, hreplace⟩ := log_of_clauses .unresolved
  have hblock : ([some Clause.warnings, none] ++ [some Clause.planar]).Perm
      ([some Clause.planar] ++ [some Clause.warnings, none]) := List.perm_append_comm
  have hdistinct : ([some Clause.warnings, none, some .planar].reduceOption.map Clause.target?).Nodup := by
    decide +kernel
  have hlater : Clause.quiet.target? ∈ [none, some Clause.debugging].reduceOption.map Clause.target? := by
    decide +kernel
  exact ⟨⟨hblock, hdistinct, hperm _ _ _ _ hblock hdistinct⟩, ⟨hlater, hoverridden _ _ _ hlater⟩,
    rfl, by decide, hreplace _ _ .debugging _ rfl (by decide)⟩

end PointSum
