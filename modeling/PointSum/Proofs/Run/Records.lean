import PointSum.Proofs.Run.Sum
import PointSum.Proofs.Settings.Resolve

/-!
# The mode of a run, and what it logs

* `FileGives home file config rs` : the rules by which a file gives a configuration or none, and the record of it;
  `fileGives_iff` : loading follows them;
* `chooseMode_eq_iff` : the mode of a run, and the records of choosing it;
* `addingRun_records_iff` : a run that adds works in the mode that the sources give, and logs how it came to it.
-/

namespace PointSum

set_option autoImplicit false

open Text Settings
open Log (Record)

/-- What the file gives: the configuration that its text is read as. A file that cannot be read as one gives none and
leaves a warning; where there is no file there is nothing to say. -/
inductive FileGives (home : String) : ConfigFile → Option Config → List Record → Prop where
  | missing : FileGives home .missing none []
  | directory : FileGives home .directory none [warning (ConfigFault.isDirectory.message (configPath home))]
  | notText {bs : Bytes} : (∀ cs, encode cs ≠ bs) →
    FileGives home (.file bs) none [warning (ConfigFault.notText.message (configPath home))]
  | malformed {cs : List Char} : (∀ c, Config.read cs ≠ .ok c) →
    FileGives home (.file (encode cs)) none [warning (ConfigFault.malformed.message (configPath home))]
  | loaded {cs : List Char} {c : Config} : Config.read cs = .ok c →
    FileGives home (.file (encode cs)) (some c) [loadedRecord home]

variable {s : Surroundings} {r : CommandLine.Request} {config : Option Config} {m : Mode} {rs : List Record}

/-- A text that is no configuration is malformed. -/
theorem read_eq_malformed {cs : List Char} (h : ∀ c, Config.read cs ≠ .ok c) : Config.read cs = .error .malformed := by
  unfold Config.read at h ⊢
  split
  · next c hc => exact absurd (by rw [hc]) (h c)
  · rfl

theorem fileGives_iff : FileGives s.home s.config config rs ↔ loadConfig s = (config, rs) := by
  constructor
  · intro h
    unfold loadConfig ConfigFile.config
    generalize s.config = file at h
    cases h with
    | missing => rfl
    | directory => rfl
    | notText hbs => simp only [ConfigFile.load, decode?_eq_none_iff.2 hbs]
    | malformed hread => simp only [ConfigFile.load, decode?_encode, read_eq_malformed hread, Except.map]
    | loaded hread => simp only [ConfigFile.load, decode?_encode, hread, Except.map, List.nil_append]
  · intro h
    unfold loadConfig ConfigFile.config at h
    generalize s.config = file at h ⊢
    cases file with
    | missing =>
      cases h
      exact .missing
    | directory =>
      cases h
      exact .directory
    | file bs =>
      cases hcs : decode? bs with
      | none =>
        simp only [ConfigFile.load, hcs] at h
        cases h
        exact .notText (decode?_eq_none_iff.1 hcs)
      | some cs =>
        obtain rfl := decode?_eq_some_iff.1 hcs
        by_cases hread : ∃ c, Config.read cs = .ok c
        · obtain ⟨c, hc⟩ := hread
          simp only [ConfigFile.load, hcs, hc, Except.map, List.nil_append] at h
          cases h
          exact .loaded hc
        · have hread : ∀ c, Config.read cs ≠ .ok c := fun c hc => hread ⟨c, hc⟩
          simp only [ConfigFile.load, hcs, read_eq_malformed hread, Except.map] at h
          cases h
          exact .malformed hread

theorem chooseMode_eq_iff : chooseMode s = (m, rs) ↔
    ∃ config loading resolving, FileGives s.home s.config config loading ∧ Resolves s.numeric config m resolving ∧
      rs = loading ++ resolving := by
  unfold chooseMode
  rcases hload : loadConfig s with ⟨config, loading⟩
  rcases hresolve : resolve s.numeric config with ⟨n, resolving⟩
  simp only [hresolve, Prod.mk.injEq]
  constructor
  · rintro ⟨rfl, rfl⟩
    exact ⟨config, loading, resolving, fileGives_iff.2 hload, resolves_iff.2 hresolve, rfl⟩
  · rintro ⟨config', loading', resolving', hfile, hmode, rfl⟩
    obtain ⟨rfl, rfl⟩ := Prod.mk.inj (hload.symm.trans (fileGives_iff.1 hfile))
    obtain ⟨rfl, rfl⟩ := Prod.mk.inj (hresolve.symm.trans (resolves_iff.1 hmode))
    exact ⟨rfl, rfl⟩

theorem log_runUnfiltered (hr : CommandLine.read s.arguments = .ok r) :
    (runUnfiltered s).log = (chooseMode s).2 ++ [addingRecord (chooseMode s).1 r] := by
  simp only [runUnfiltered, hr, runRequest]
  split
  · rfl
  · next e _ => cases e <;> rfl

/-- A run that adds works in the mode that the sources give, the environment before the configuration, and its records
are those of the sources that were asked and the one of the addition. So a source that is no good is passed over with
a warning, and the run goes on to add. It succeeds if it starts at all and the points have a sum. -/
theorem addingRun_records_iff (s : Surroundings) (r : CommandLine.Request)
    (hr : CommandLine.read s.arguments = .ok r) :
    (∀ m records, (chooseMode s).1 = m ∧ (runUnfiltered s).log = records ↔
      ∃ config loading resolving, FileGives s.home s.config config loading ∧
        Resolves s.numeric config m resolving ∧ records = loading ++ resolving ++ [addingRecord m r]) ∧
    ((run s).status = 0 ↔ Starts s ∧
      ∃ t, sumText (chooseMode s).1 r.lhs r.rhs = .ok t ∧ (run s).output = t ++ "\n") := by
  constructor
  · intro m records
    rw [log_runUnfiltered hr]
    constructor
    · rintro ⟨rfl, rfl⟩
      have hpair : chooseMode s = ((chooseMode s).1, (chooseMode s).2) := rfl
      obtain ⟨config, loading, resolving, hfile, hmode, hrs⟩ := chooseMode_eq_iff.1 hpair
      exact ⟨config, loading, resolving, hfile, hmode, by rw [hrs]⟩
    · rintro ⟨config, loading, resolving, hfile, hmode, rfl⟩
      rw [chooseMode_eq_iff.2 ⟨config, loading, resolving, hfile, hmode, rfl⟩]
      exact ⟨rfl, rfl⟩
  · rw [run_status_eq_zero_iff hr]
    refine and_congr_right fun hstarts => exists_congr fun t => ?_
    exact ⟨fun h => ⟨h, run_output hstarts hr h⟩, fun h => h.1⟩

/-- Surroundings where no source names a mode: the environment holds no text, and the configuration another name. -/
def Surroundings.unresolved : Surroundings where
  arguments := [encode "add".toList, encode "1,2".toList, encode "3,4".toList]
  numeric := some [0x66, 0xFF]
  filter := none
  home := "/home"
  config := .file (encode "[app]\nnumeric = 'decimal'\n".toList)

theorem addingRun_records_iff_unresolved :
    CommandLine.read Surroundings.unresolved.arguments = .ok ⟨"1,2", "3,4"⟩ ∧
      (∃ config loading resolving, FileGives "/home" Surroundings.unresolved.config config loading ∧
        Resolves (some [0x66, 0xFF]) config .int resolving ∧
        [⟨.debug, "planar::config", ["message", "path"], "Loaded config path=/home/.planar/config.toml"⟩,
          ⟨.warn, "planar::config", ["message"], "Ignoring non-UTF-8 PLANAR_NUMERIC value: \"f\\xFF\""⟩,
          ⟨.warn, "planar::config", ["message"], "Unknown numeric mode in config: decimal"⟩,
          ⟨.debug, "planar", ["message", "mode", "lhs", "rhs"], "Adding points mode=Int lhs=\"1,2\" rhs=\"3,4\""⟩] =
          loading ++ resolving ++ [addingRecord .int ⟨"1,2", "3,4"⟩]) ∧
      ((run .unresolved).status = 0 ↔ Starts .unresolved ∧ ∃ t, sumText (chooseMode .unresolved).1 "1,2" "3,4" = .ok t ∧
        (run .unresolved).output = t ++ "\n") := by
  have hread : CommandLine.read Surroundings.unresolved.arguments = .ok ⟨"1,2", "3,4"⟩ := by decide +kernel
  obtain ⟨hrecords, hstatus⟩ := addingRun_records_iff .unresolved _ hread
  exact ⟨hread, (hrecords _ _).1 ⟨by decide +kernel, by decide +kernel⟩, hstatus⟩

end PointSum
