import PointSum.Proofs.Log.Trap
import PointSum.Proofs.Run.Sum

/-!
# How runs end

* `Ends s o` : the four ways in which a run in the surroundings `s` that starts comes to an outcome `o`; `ends_run` :
  there is no other, in particular no addition traps;
* `run_of_stop` : a run that does not get to add depends on nothing but the command line;
* `run_streams` : the status tells which of the two streams holds text, and which text, if the filter does not trap;
  `status_cutting` : and there is a filter that does.
-/

namespace PointSum

set_option autoImplicit false

open Settings (Mode)
open CommandLine (Stop)
open Log (Filter)

variable {s : Surroundings} {r : CommandLine.Request} {m : Mode} {t : String} {e : SumFault} {o : Outcome} {stop : Stop}
  {records : List Log.Record}

/-! ## Stops and faults -/

theorem CommandLine.Stop.written_ne_empty (stop : Stop) : stop.written ≠ "" := by
  unfold Stop.written Stop.text
  split
  · next scope => cases scope <;> decide +kernel
  · decide
  · decide +kernel
  · simp

theorem CommandLine.Stop.isAnswer_iff : stop.isAnswer ↔ (∃ scope, stop = .help scope) ∨ stop = .version := by
  cases stop <;> simp [Stop.isAnswer]

/-- Integers are added with a check and binary numbers always have a sum, so no addition traps. -/
theorem faulted_of_sumText {lhs rhs : String} (h : sumText m lhs rhs = .error e) :
    faulted s records e = ⟨1, "", "Error: " ++ e.message ++ "\n", records⟩ := by
  have hpoints : ∀ {α : Type} [Scalar α], readPoints α lhs rhs = .error e →
      faulted s records e = ⟨1, "", "Error: " ++ e.message ++ "\n", records⟩ := by
    intro α _ he
    rcases readPoints_eq_error_iff.1 he with ⟨c, -, rfl⟩ | ⟨p, c, -, -, rfl⟩
    · rfl
    · rfl
  cases m with
  | int =>
    rcases sumText_int_eq_error_iff.1 h with he | ⟨p, q, o, -, -, -, rfl⟩
    · exact hpoints he
    · rfl
  | float =>
    rw [sumText_float, bind_readPoints_eq_error_iff] at h
    rcases h with he | ⟨p, q, t, -, -, hadd, -⟩
    · exact hpoints he
    · rw [Point.add_binary] at hadd
      cases hadd

/-! ## Outcomes -/

theorem log_stopped (stop : Stop) : (stopped stop).log = [] := by
  unfold stopped
  split <;> rfl

theorem status_stopped (stop : Stop) : (stopped stop).status = if stop.isAnswer then 0 else 2 := by
  unfold stopped Stop.status
  split <;> rfl

theorem runUnfiltered_of_stop (hstop : CommandLine.read s.arguments = .error stop) :
    runUnfiltered s = stopped stop := by
  rw [runUnfiltered, hstop]

/-- A run that does not get to add depends on nothing but the command line. -/
theorem run_of_stop (hstarts : Starts s) (hstop : CommandLine.read s.arguments = .error stop) :
    run s = stopped stop := by
  obtain ⟨fs, hfilter⟩ := hstarts
  rw [run_of_filter hfilter, runUnfiltered_of_stop hstop, stopped]
  split <;> rfl

theorem run_of_sum (hstarts : Starts s) (hread : CommandLine.read s.arguments = .ok r)
    (hsum : sumText (chooseMode s).1 r.lhs r.rhs = .ok t) : ∃ log, run s = ⟨0, t ++ "\n", "", log⟩ := by
  obtain ⟨fs, hfilter⟩ := hstarts
  simp only [run_of_filter hfilter, runUnfiltered, hread, runRequest, hsum]
  exact ⟨_, rfl⟩

theorem run_of_fault (hstarts : Starts s) (hread : CommandLine.read s.arguments = .ok r)
    (hfault : sumText (chooseMode s).1 r.lhs r.rhs = .error e) :
    ∃ log, run s = ⟨1, "", "Error: " ++ e.message ++ "\n", log⟩ := by
  obtain ⟨fs, hfilter⟩ := hstarts
  simp only [run_of_filter hfilter, runUnfiltered, hread, runRequest, hfault, faulted_of_sumText hfault]
  exact ⟨_, rfl⟩

/-- The ways in which a run that starts comes to its end. -/
inductive Ends (s : Surroundings) : Outcome → Prop where
  | answered {stop : Stop} : CommandLine.read s.arguments = .error stop → stop.isAnswer →
    Ends s ⟨0, stop.written, "", []⟩
  | refused {stop : Stop} : CommandLine.read s.arguments = .error stop → ¬ stop.isAnswer →
    Ends s ⟨2, "", stop.written, []⟩
  | added {r : CommandLine.Request} {t : String} {log : List Log.Record} :
    CommandLine.read s.arguments = .ok r → sumText (chooseMode s).1 r.lhs r.rhs = .ok t →
    Ends s ⟨0, t ++ "\n", "", log⟩
  | failed {r : CommandLine.Request} {e : SumFault} {log : List Log.Record} :
    CommandLine.read s.arguments = .ok r → sumText (chooseMode s).1 r.lhs r.rhs = .error e →
    Ends s ⟨1, "", "Error: " ++ e.message ++ "\n", log⟩

theorem ends_run (hstarts : Starts s) : Ends s (run s) := by
  cases hread : CommandLine.read s.arguments with
  | error stop =>
    rw [run_of_stop hstarts hread]
    unfold stopped Stop.status
    by_cases hanswer : stop.isAnswer
    · rw [if_pos hanswer, if_pos hanswer]
      exact .answered hread hanswer
    · rw [if_neg hanswer, if_neg hanswer]
      exact .refused hread hanswer
  | ok r =>
    cases hsum : sumText (chooseMode s).1 r.lhs r.rhs with
    | ok t =>
      obtain ⟨log, hrun⟩ := run_of_sum hstarts hread hsum
      rw [hrun]
      exact .added hread hsum
    | error e =>
      obtain ⟨log, hrun⟩ := run_of_fault hstarts hread hsum
      rw [hrun]
      exact .failed hread hsum

theorem Ends.status_mem (h : Ends s o) : o.status = 0 ∨ o.status = 1 ∨ o.status = 2 := by
  cases h <;> simp

theorem Ends.output_ne_empty_iff (h : Ends s o) : o.output ≠ "" ↔ o.status = 0 := by
  cases h with
  | answered => simp [Stop.written_ne_empty]
  | refused => simp
  | added => simp
  | failed => simp

theorem Ends.errors_ne_empty_iff (h : Ends s o) : o.errors ≠ "" ↔ o.status ≠ 0 := by
  cases h with
  | answered => simp
  | refused => simp [Stop.written_ne_empty]
  | added => simp
  | failed => simp

theorem Ends.status_eq_one_iff (h : Ends s o) : o.status = 1 ↔
    ∃ r e, CommandLine.read s.arguments = .ok r ∧ sumText (chooseMode s).1 r.lhs r.rhs = .error e := by
  cases h with
  | answered hread hanswer => simp [hread]
  | refused hread hanswer => simp [hread]
  | added hread hsum => simp [hread, hsum]
  | failed hread hfault => simp [hread, hfault]

/-- A run ends with status 101 before it gets to its command line if the filter traps. That takes a directive with a
blank character in front and a character of several bytes. Else the status is 0, 1 or 2: the run has a text on the
output if it is 0, and on the error output if it is not. It is 1 where the points that the command line holds have no
sum in the mode of the run, and the error output then tells why. Where the command line holds no points the status is 0
if it asks for help or for the version and else 2, nothing is logged, and the run is that of any surroundings with the
same command line. -/
theorem run_streams (s : Surroundings) :
    (∀ t, Filter.ofSetting s.filter = .error t → run s = ⟨101, "", s.report (.filter t), []⟩ ∧
      ∃ cs, s.filter = some (Text.encode cs) ∧ ∃ directive ∈ Log.directiveTexts cs,
        (∃ c ∈ directive.head?, Text.isBlank c) ∧ ∃ c ∈ directive, 1 < c.utf8Size) ∧
    (Starts s →
      ((run s).status = 0 ∨ (run s).status = 1 ∨ (run s).status = 2) ∧
      ((run s).output ≠ "" ↔ (run s).status = 0) ∧
      ((run s).errors ≠ "" ↔ (run s).status ≠ 0) ∧
      ((run s).status = 1 ↔
        ∃ r e, CommandLine.read s.arguments = .ok r ∧ sumText (chooseMode s).1 r.lhs r.rhs = .error e) ∧
      (∀ r e, CommandLine.read s.arguments = .ok r → sumText (chooseMode s).1 r.lhs r.rhs = .error e →
        (run s).errors = "Error: " ++ String.intercalate ": " e.chain ++ "\n") ∧
      (∀ r, CommandLine.read s.arguments = .ok r → (run s).status = 0 →
        ∃ t, sumText (chooseMode s).1 r.lhs r.rhs = .ok t ∧ (run s).output = t ++ "\n") ∧
      (∀ stop, CommandLine.read s.arguments = .error stop →
        ((run s).status = 0 ↔ (∃ scope, stop = .help scope) ∨ stop = .version) ∧
        ((run s).status = 2 ↔ ¬ ((∃ scope, stop = .help scope) ∨ stop = .version)) ∧
        (runUnfiltered s).log = [] ∧
        ∀ s' : Surroundings, s'.arguments = s.arguments → Starts s' → run s' = run s)) := by
  refine ⟨fun t htrap => ⟨run_of_trap htrap, Log.blank_of_ofSetting htrap⟩, fun hstarts => ?_⟩
  have hends := ends_run hstarts
  refine ⟨hends.status_mem, hends.output_ne_empty_iff, hends.errors_ne_empty_iff, hends.status_eq_one_iff, ?_, ?_, ?_⟩
  · intro r e hread hfault
    obtain ⟨log, hrun⟩ := run_of_fault hstarts hread hfault
    rw [hrun]
    rfl
  · intro r hread hstatus
    obtain ⟨-, t, hsum⟩ := (run_status_eq_zero_iff hread).1 hstatus
    exact ⟨t, hsum, run_output hstarts hread hsum⟩
  · intro stop hstop
    rw [run_of_stop hstarts hstop, runUnfiltered_of_stop hstop, status_stopped, ← Stop.isAnswer_iff]
    refine ⟨by simp, by simp, log_stopped stop, ?_⟩
    intro s' hs' hstarts'
    exact run_of_stop hstarts' (hs' ▸ hstop)

/-- Surroundings where the filter has a no-break space in front of its directive. The target ends at the first byte of
the directive, and the space has two. -/
def Surroundings.cutting : Surroundings where
  arguments := [Text.encode "add".toList, Text.encode "1,2".toList, Text.encode "3,4".toList]
  numeric := none
  filter := some (Text.encode ('\u00a0' :: "a=warn".toList))
  home := ""
  config := .missing

/-- The trap of this filter. -/
def cuttingTrap : Log.FilterTrap := ⟨some '=', .stop ⟨1, '\u00a0', 0⟩⟩

theorem ofSetting_cutting : Filter.ofSetting Surroundings.cutting.filter = .error cuttingTrap := by decide +kernel

theorem run_streams_overflow_sum_stop :
    (Filter.ofSetting Surroundings.cutting.filter = .error cuttingTrap ∧
      run .cutting = ⟨101, "", Surroundings.cutting.report (.filter cuttingTrap), []⟩) ∧
    (Starts (.ofWords ["add", "9223372036854775807,0", "1,0"] "int") ∧
      CommandLine.read (Surroundings.ofWords ["add", "9223372036854775807,0", "1,0"] "int").arguments =
        .ok ⟨"9223372036854775807,0", "1,0"⟩ ∧
      sumText (chooseMode (.ofWords ["add", "9223372036854775807,0", "1,0"] "int")).1 "9223372036854775807,0" "1,0" =
        .error (.overflow ⟨.x, "9223372036854775807", "1"⟩) ∧
      (run (.ofWords ["add", "9223372036854775807,0", "1,0"] "int")).errors =
        "Error: " ++ String.intercalate ": " (SumFault.overflow ⟨.x, "9223372036854775807", "1"⟩).chain ++ "\n") ∧
    (Starts (.ofWords ["add", "0.5,1", "0.25,-3"] "float") ∧
      CommandLine.read (Surroundings.ofWords ["add", "0.5,1", "0.25,-3"] "float").arguments =
        .ok ⟨"0.5,1", "0.25,-3"⟩ ∧
      (run (.ofWords ["add", "0.5,1", "0.25,-3"] "float")).status = 0 ∧
      ∃ t, sumText (chooseMode (.ofWords ["add", "0.5,1", "0.25,-3"] "float")).1 "0.5,1" "0.25,-3" = .ok t ∧
        (run (.ofWords ["add", "0.5,1", "0.25,-3"] "float")).output = t ++ "\n") ∧
    (Starts (.ofWords ["add", "1,2"] "int") ∧ Starts (.ofWords ["add", "1,2"] "float") ∧
      CommandLine.read (Surroundings.ofWords ["add", "1,2"] "int").arguments = .error (.operandsMissing ["RHS"]) ∧
      run (.ofWords ["add", "1,2"] "float") = run (.ofWords ["add", "1,2"] "int")) := by
  have hstarts : ∀ words mode, Starts (.ofWords words mode) := fun _ _ => starts_of_none rfl
  have hoverflow : CommandLine.read (Surroundings.ofWords ["add", "9223372036854775807,0", "1,0"] "int").arguments =
      .ok ⟨"9223372036854775807,0", "1,0"⟩ := by decide +kernel
  have hfault : sumText (chooseMode (.ofWords ["add", "9223372036854775807,0", "1,0"] "int")).1
      "9223372036854775807,0" "1,0" = .error (.overflow ⟨.x, "9223372036854775807", "1"⟩) := by decide +kernel
  have hsum : CommandLine.read (Surroundings.ofWords ["add", "0.5,1", "0.25,-3"] "float").arguments =
      .ok ⟨"0.5,1", "0.25,-3"⟩ := by decide +kernel
  have hstatus : (run (.ofWords ["add", "0.5,1", "0.25,-3"] "float")).status = 0 := by decide +kernel
  have hstop : CommandLine.read (Surroundings.ofWords ["add", "1,2"] "int").arguments =
      .error (.operandsMissing ["RHS"]) := by decide +kernel
  obtain ⟨-, -, -, -, herrors, -, -⟩ :=
    (run_streams (.ofWords ["add", "9223372036854775807,0", "1,0"] "int")).2 (hstarts _ _)
  obtain ⟨-, -, -, -, -, houtput, -⟩ := (run_streams (.ofWords ["add", "0.5,1", "0.25,-3"] "float")).2 (hstarts _ _)
  obtain ⟨-, -, -, -, -, -, hstopped⟩ := (run_streams (.ofWords ["add", "1,2"] "int")).2 (hstarts _ _)
  exact ⟨⟨ofSetting_cutting, ((run_streams .cutting).1 _ ofSetting_cutting).1⟩,
    ⟨hstarts _ _, hoverflow, hfault, herrors _ _ hoverflow hfault⟩,
    ⟨hstarts _ _, hsum, hstatus, houtput _ hsum hstatus⟩,
    hstarts _ _, hstarts _ _, hstop, (hstopped _ hstop).2.2.2 _ rfl (hstarts _ _)⟩

/-- Not every run ends with a status from 0 to 2: here the command line holds two points that have a sum, and the filter
ends the run. -/
theorem status_cutting :
    (CommandLine.read Surroundings.cutting.arguments = .ok ⟨"1,2", "3,4"⟩ ∧
      sumText (chooseMode .cutting).1 "1,2" "3,4" = .ok "(4, 6)" ∧
      (run .cutting).status = 101 ∧ (run .cutting).output = "") ∧
    ¬ ∀ s : Surroundings, (run s).status = 0 ∨ (run s).status = 1 ∨ (run s).status = 2 := by
  have hstatus : (run .cutting).status = 101 := by decide +kernel
  refine ⟨⟨by decide +kernel, by decide +kernel, hstatus, by decide +kernel⟩, fun hall => ?_⟩
  have := hall .cutting
  rw [hstatus] at this
  omega

end PointSum
