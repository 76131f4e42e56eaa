import PointSum.Proofs.Log.Filter
import PointSum.Proofs.Run.Records
import PointSum.Proofs.Run.Status

/-!
# The log of a run

* `Logs s w` : the surroundings give reason for the record `w`; `logs_of_mem` : a run has reason for all its records;
* `log_run` : a run logs those of the records that the filter shows; `log_everyLevel` : at the level of all details
  these are all records; `log_warnings` : where there is no filter that can be read, they are the warnings;
* `run_log_only` : surroundings that differ in the filter make runs that differ in the log, and only in which of the
  same records it holds, if neither filter traps; `runs_cutting` : and one that does makes another run.
-/

namespace PointSum

set_option autoImplicit false

open Text Settings
open Log (Record Filter Level)

variable {s : Surroundings} {r : CommandLine.Request} {w : Record} {given : Option Mode} {rs more : List Record}

/-! ## Reasons for records -/

/-- The surroundings give reason for the record. -/
inductive Logs (s : Surroundings) : Record → Prop where
  | loaded : Logs s (loadedRecord s.home)
  | adding (m : Mode) (r : CommandLine.Request) : Logs s (addingRecord m r)
  | file (e : ConfigFault) : Logs s (warning (e.message (configPath s.home)))
  | notText {bs : Bytes} : s.numeric = some bs →
    Logs s (warning ("Ignoring non-UTF-8 PLANAR_NUMERIC value: " ++ .ofList (quoteBytes bs)))
  | environment {cs : List Char} : s.numeric = some (encode cs) →
    Logs s (warning ("Ignoring unknown PLANAR_NUMERIC value: " ++ .ofList cs))
  | config {raw : String} : (loadConfig s).1.bind Config.numeric? = some raw →
    Logs s (warning ("Unknown numeric mode in config: " ++ raw))

theorem chooseMode_records (s : Surroundings) :
    (chooseMode s).2 = (loadConfig s).2 ++ (resolve s.numeric (loadConfig s).1).2 := rfl

theorem logs_of_loading (h : w ∈ (loadConfig s).2) : Logs s w := by
  have hfile : FileGives s.home s.config (loadConfig s).1 (loadConfig s).2 := fileGives_iff.2 rfl
  generalize (loadConfig s).1 = config at hfile
  generalize (loadConfig s).2 = loading at hfile h
  generalize s.config = file at hfile
  cases hfile with
  | missing => cases h
  | directory =>
    rw [List.mem_singleton.1 h]
    exact .file .isDirectory
  | notText =>
    rw [List.mem_singleton.1 h]
    exact .file .notText
  | malformed =>
    rw [List.mem_singleton.1 h]
    exact .file .malformed
  | loaded =>
    rw [List.mem_singleton.1 h]
    exact .loaded

theorem logs_of_environment (henv : EnvironmentGives s.numeric given rs) (h : w ∈ rs) : Logs s w := by
  generalize hvalue : s.numeric = value at henv
  cases henv with
  | unset => cases h
  | named => cases h
  | unknown =>
    rw [List.mem_singleton.1 h]
    exact .environment hvalue
  | notText =>
    rw [List.mem_singleton.1 h]
    exact .notText hvalue

theorem logs_of_config (hconfig : ConfigGives (loadConfig s).1 given rs) (h : w ∈ rs) : Logs s w := by
  generalize hc : (loadConfig s).1 = config at hconfig
  cases hconfig with
  | missing => cases h
  | unset => cases h
  | named => cases h
  | unknown hraw =>
    rw [List.mem_singleton.1 h]
    refine .config ?_
    rw [hc]
    exact hraw

theorem logs_of_sources (henv : EnvironmentGives s.numeric none rs)
    (hconfig : ConfigGives (loadConfig s).1 given more) (h : w ∈ rs ++ more) : Logs s w := by
  rcases List.mem_append.1 h with h | h
  · exact logs_of_environment henv h
  · exact logs_of_config hconfig h

theorem logs_of_resolves {m : Mode} (h : Resolves s.numeric (loadConfig s).1 m rs) (hw : w ∈ rs) : Logs s w := by
  rcases h with henv | ⟨henv, hconfig⟩ | ⟨henv, hconfig⟩
  · exact logs_of_environment henv hw
  · exact logs_of_sources henv hconfig hw
  · exact logs_of_sources henv hconfig hw

theorem logs_of_mem (h : w ∈ (runUnfiltered s).log) : Logs s w := by
  cases hread : CommandLine.read s.arguments with
  | error stop =>
    rw [runUnfiltered_of_stop hread, log_stopped] at h
    cases h
  | ok r =>
    rw [log_runUnfiltered hread, chooseMode_records, List.append_assoc] at h
    rcases List.mem_append.1 h with h | h
    · exact logs_of_loading h
    · rcases List.mem_append.1 h with h | h
      · exact logs_of_resolves (resolves_iff.2 rfl) h
      · rw [List.mem_singleton.1 h]
        exact .adding _ _

/-- Nothing more pressing than a warning is logged. -/
theorem Logs.level (h : Logs s w) : w.level = .warn ∨ w.level = .debug := by
  cases h with
  | loaded => exact .inr rfl
  | adding => exact .inr rfl
  | file => exact .inl rfl
  | notText => exact .inl rfl
  | environment => exact .inl rfl
  | config => exact .inl rfl

/-! ## Filters -/

theorem log_run {filter : Option Bytes} {fs : Filter} (s : Surroundings) (h : Filter.ofSetting filter = .ok fs) :
    (run { s with filter }).log = (runUnfiltered s).log.filter fs.shows := by
  rw [run_of_filter h]
  rfl

/-- The setting that asks for records of all levels. -/
def everyLevel : Option Bytes := some (encode "trace".toList)

theorem ofSetting_everyLevel : Filter.ofSetting everyLevel = .ok [⟨none, none, 5⟩] := by decide +kernel

theorem log_everyLevel (s : Surroundings) : (run { s with filter := everyLevel }).log = (runUnfiltered s).log := by
  rw [log_run s ofSetting_everyLevel, List.filter_eq_self]
  intro w hw
  rcases (logs_of_mem hw).level with h | h
  · rw [Filter.shows_level, h]
    rfl
  · rw [Filter.shows_level, h]
    rfl

/-- No filter is given, or none that can be read. -/
def Unreadable (filter : Option Bytes) : Prop :=
  ∀ cs, filter = some (encode cs) → Filter.read cs = .error .unreadable

theorem ofSetting_of_unreadable {filter : Option Bytes} (h : Unreadable filter) :
    Filter.ofSetting filter = .ok Filter.warnings := by
  unfold Filter.ofSetting
  cases hcs : filter.bind decode? with
  | none => rfl
  | some cs =>
    obtain ⟨bs, rfl, hbs⟩ := Option.bind_eq_some_iff.1 hcs
    have hread := h cs (by rw [decode?_eq_some_iff.1 hbs])
    simp only [hread]

theorem log_warnings {filter : Option Bytes} (h : Unreadable filter) :
    (run { s with filter }).log = (runUnfiltered s).log.filter fun w => w.level = .warn := by
  rw [log_run s (ofSetting_of_unreadable h)]
  apply List.filter_congr
  intro w hw
  rcases (logs_of_mem hw).level with h | h
  · rw [Filter.warnings, Filter.shows_level, h]
    rfl
  · rw [Filter.warnings, Filter.shows_level, h]
    rfl

/-- A filter that is read without a trap decides on nothing but the log. Of the records that a run leaves where all are
shown, in their order, it keeps those whose level the deciding directive allows, and, if it is missing or cannot be
read, the warnings. A filter that traps ends the run with status 101 and nothing on the output or in the log. -/
theorem run_log_only (s : Surroundings) (filter : Option Bytes) :
    (Starts s → Starts { s with filter } →
      (run { s with filter }).status = (run s).status ∧
      (run { s with filter }).output = (run s).output ∧
      (run { s with filter }).errors = (run s).errors) ∧
    (∀ cs fs, filter = some (encode cs) → Filter.read cs = .ok fs →
      (run { s with filter }).log = (run { s with filter := everyLevel }).log.filter fs.shows ∧
      ∀ w, fs.shows w ↔ ∃ d, Log.Decides fs d w ∧ w.level.rank ≤ d.threshold) ∧
    (Unreadable filter →
      (run { s with filter }).log = (run { s with filter := everyLevel }).log.filter fun w => w.level = .warn) ∧
    ∀ t, Filter.ofSetting filter = .error t → run { s with filter } = ⟨101, "", s.report (.filter t), []⟩ := by
  refine ⟨?_, ?_, ?_, fun t htrap => run_of_trap htrap⟩
  · rintro ⟨fs, hfs⟩ ⟨gs, hgs⟩
    rw [run_of_filter hfs, run_of_filter hgs]
    exact ⟨rfl, rfl, rfl⟩
  · intro cs fs hfilter hread
    have hfs : Filter.ofSetting filter = .ok fs := by rw [hfilter, Log.ofSetting_encode, hread]
    refine ⟨?_, fun w => Filter.shows_iff⟩
    rw [log_everyLevel, log_run s hfs]
  · intro hfilter
    rw [log_everyLevel, log_warnings hfilter]

theorem run_log_only_unresolved :
    (Starts .unresolved ∧ Starts { Surroundings.unresolved with filter := everyLevel } ∧
      (run { Surroundings.unresolved with filter := everyLevel }).output = (run .unresolved).output) ∧
    (some (encode "planar=info,planar::config=debug".toList) = some (encode "planar=info,planar::config=debug".toList) ∧
      Filter.read "planar=info,planar::config=debug".toList =
        .ok [⟨some "planar".toList, none, 3⟩, ⟨some "planar::config".toList, none, 4⟩] ∧
      (run { Surroundings.unresolved with filter := some (encode "planar=info,planar::config=debug".toList) }).log =
        (run { Surroundings.unresolved with filter := everyLevel }).log.filter
          (Filter.shows [⟨some "planar".toList, none, 3⟩, ⟨some "planar::config".toList, none, 4⟩])) ∧
    (Unreadable (some (encode "planar=bogus".toList)) ∧
      (run { Surroundings.unresolved with filter := some (encode "planar=bogus".toList) }).log =
        (run { Surroundings.unresolved with filter := everyLevel }).log.filter fun w => w.level = .warn) ∧
    Filter.ofSetting Surroundings.cutting.filter = .error cuttingTrap ∧
      run { Surroundings.unresolved with filter := Surroundings.cutting.filter } =
        ⟨101, "", Surroundings.unresolved.report (.filter cuttingTrap), []⟩ := by
  have hread : Filter.read "planar=info,planar::config=debug".toList =
      .ok [⟨some "planar".toList, none, 3⟩, ⟨some "planar::config".toList, none, 4⟩] := by decide +kernel
  have hbogus : Unreadable (some (encode "planar=bogus".toList)) := by
    intro cs hcs
    rw [← encode_injective (Option.some.inj hcs)]
    decide +kernel
  have hstarts : Starts .unresolved := starts_of_none rfl
  have hstarts' : Starts { Surroundings.unresolved with filter := everyLevel } := ⟨_, ofSetting_everyLevel⟩
  obtain ⟨houtcome, -, -, -⟩ := run_log_only .unresolved everyLevel
  obtain ⟨-, hlog, -, -⟩ := run_log_only .unresolved (some (encode "planar=info,planar::config=debug".toList))
  obtain ⟨-, -, hwarnings, -⟩ := run_log_only .unresolved (some (encode "planar=bogus".toList))
  obtain ⟨-, -, -, htrap⟩ := run_log_only .unresolved Surroundings.cutting.filter
  exact ⟨⟨hstarts, hstarts', (houtcome hstarts hstarts').2.1⟩, ⟨rfl, hread, (hlog _ _ rfl hread).1⟩,
    ⟨hbogus, hwarnings hbogus⟩, ofSetting_cutting, htrap _ ofSetting_cutting⟩

/-- Two runs that differ only in the filter may differ in more than the log: the one with this filter ends before it
adds, and the one without a filter prints the sum. -/
theorem runs_cutting :
    ((run .cutting).status = 101 ∧ (run { Surroundings.cutting with filter := none }).status = 0 ∧
      (run .cutting).output = "" ∧ (run { Surroundings.cutting with filter := none }).output = "(4, 6)\n") ∧
    ¬ ∀ (s : Surroundings) (filter : Option Bytes), (run { s with filter }).status = (run s).status := by
  have hstatus : (run .cutting).status = 101 := by decide +kernel
  have hstatus' : (run { Surroundings.cutting with filter := none }).status = 0 := by decide +kernel
  refine ⟨⟨hstatus, hstatus', by decide +kernel, by decide +kernel⟩, fun hall => ?_⟩
  have := hall .cutting none
  rw [hstatus, hstatus'] at this
  cases this

end PointSum
