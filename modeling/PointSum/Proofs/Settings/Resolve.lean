import PointSum.Proofs.Text.Trim
import PointSum.Proofs.Text.Utf8
import PointSum.Settings.Resolve

/-!
# The mode that the sources ask for

* `Mode.Names cs m` : the text is the name of the mode in letters of either case, between blank characters;
  `Mode.ofText?_eq_some_iff` : these texts are read as the mode;
* `EnvironmentGives value m rs`, `ConfigGives config m rs` : the rules by which a source gives a mode or none, and
  which warning it leaves;
* `Resolves value config m rs` : the rules by which the sources are asked, one after the other;
* `environmentGives_iff`, `configGives_iff`, `resolves_iff` : the functions follow the rules.
-/

namespace PointSum.Settings

set_option autoImplicit false

open Text
open Log (Record)

variable {cs : List Char} {m : Mode} {given : Option Mode} {value : Option Bytes} {config : Option Config}
  {rs : List Record}

/-! ## Names of modes -/

/-- The text is the name of the mode in letters of either case, between blank characters. -/
def Mode.Names (cs : List Char) (m : Mode) : Prop :=
  ∃ u w v, Blanks u ∧ Blanks v ∧ cs = u ++ w ++ v ∧ w.map Char.toLower = m.name.toList

theorem toLower_of_isBlank {c : Char} (h : isBlank c) : c.toLower = c := by
  unfold Char.toLower
  refine dif_neg fun hc => ?_
  have hl : 0x41 ≤ c.toNat := UInt32.le_iff_toNat_le.1 hc.1
  have hu : c.toNat ≤ 0x5A := UInt32.le_iff_toNat_le.1 hc.2
  simp only [isBlank, Bool.or_eq_true, Bool.and_eq_true, decide_eq_true_eq, beq_iff_eq] at h
  omega

theorem Mode.tight_of_map_toLower {w : List Char} (h : w.map Char.toLower = m.name.toList) : Tight w := by
  refine tight_of_forall fun c hc => ?_
  cases hblank : isBlank c with
  | false => rfl
  | true =>
    have hmem : c ∈ m.name.toList := by
      rw [← h, ← toLower_of_isBlank hblank]
      exact List.mem_map_of_mem hc
    have hname : m.name.toList.all (!isBlank ·) := by
      cases m <;> decide
    have hc := List.all_eq_true.1 hname c hmem
    rw [hblank] at hc
    cases hc

theorem Mode.ofText?_eq_some_iff : Mode.ofText? cs = some m ↔ Mode.Names cs m := by
  have hlower : Mode.ofText? cs = some m ↔ (trim cs).map Char.toLower = m.name.toList := by
    have hname : int.name.toList ≠ float.name.toList := by decide
    simp only [Mode.ofText?]
    generalize (trim cs).map Char.toLower = word
    cases m <;> split_ifs <;> simp_all
  rw [hlower]
  constructor
  · intro h
    obtain ⟨u, v, hu, hv, hcs⟩ := exists_trim cs
    exact ⟨u, trim cs, v, hu, hv, hcs, h⟩
  · rintro ⟨u, w, v, hu, hv, rfl, h⟩
    rw [trim_append hu hv, trim_of_tight (Mode.tight_of_map_toLower h), h]

theorem Mode.ofText?_eq_none_iff : Mode.ofText? cs = none ↔ ∀ m, ¬ Mode.Names cs m := by
  rw [Option.eq_none_iff_forall_ne_some]
  exact forall_congr' fun m => not_congr Mode.ofText?_eq_some_iff

/-! ## The sources -/

/-- What the environment gives: the mode that its value names. A value that names none, or is not well-formed text,
leaves a warning. -/
inductive EnvironmentGives : Option Bytes → Option Mode → List Record → Prop where
  | unset : EnvironmentGives none none []
  | named {cs : List Char} {m : Mode} : Mode.Names cs m → EnvironmentGives (some (encode cs)) (some m) []
  | unknown {cs : List Char} : (∀ m, ¬ Mode.Names cs m) →
    EnvironmentGives (some (encode cs)) none [warning ("Ignoring unknown PLANAR_NUMERIC value: " ++ .ofList cs)]
  | notText {bs : Bytes} : (∀ cs, encode cs ≠ bs) →
    EnvironmentGives (some bs) none
      [warning ("Ignoring non-UTF-8 PLANAR_NUMERIC value: " ++ .ofList (quoteBytes bs))]

theorem environmentGives_iff : EnvironmentGives value given rs ↔ modeOfEnvironment value = (given, rs) := by
  constructor
  · rintro (_ | hm | hm | hbs)
    · rfl
    · simp only [modeOfEnvironment, decode?_encode, Mode.ofText?_eq_some_iff.2 hm]
    · simp only [modeOfEnvironment, decode?_encode, Mode.ofText?_eq_none_iff.2 hm]
      rfl
    · simp only [modeOfEnvironment, decode?_eq_none_iff.2 hbs]
      rfl
  · intro h
    unfold modeOfEnvironment at h
    cases value with
    | none =>
      cases h
      exact .unset
    | some bs =>
      cases hcs : decode? bs with
      | none =>
        simp only [hcs] at h
        cases h
        exact .notText (decode?_eq_none_iff.1 hcs)
      | some cs =>
        obtain rfl := decode?_eq_some_iff.1 hcs
        cases hm : Mode.ofText? cs with
        | none =>
          simp only [hcs, hm] at h
          cases h
          exact .unknown (Mode.ofText?_eq_none_iff.1 hm)
        | some m =>
          simp only [hcs, hm] at h
          cases h
          exact .named (Mode.ofText?_eq_some_iff.1 hm)

/-- What the configuration gives: the mode that its setting names. A setting that names none leaves a warning. -/
inductive ConfigGives : Option Config → Option Mode → List Record → Prop where
  | missing : ConfigGives none none []
  | unset {c : Config} : c.numeric? = none → ConfigGives (some c) none []
  | named {c : Config} {raw : String} {m : Mode} : c.numeric? = some raw → Mode.Names raw.toList m →
    ConfigGives (some c) (some m) []
  | unknown {c : Config} {raw : String} : c.numeric? = some raw → (∀ m, ¬ Mode.Names raw.toList m) →
    ConfigGives (some c) none [warning ("Unknown numeric mode in config: " ++ raw)]

theorem configGives_iff : ConfigGives config given rs ↔ modeOfConfig config = (given, rs) := by
  constructor
  · rintro (_ | hraw | ⟨hraw, hm⟩ | ⟨hraw, hm⟩)
    · rfl
    · simp only [modeOfConfig, Option.bind_some, hraw]
    · simp only [modeOfConfig, Option.bind_some, hraw, Mode.ofText?_eq_some_iff.2 hm]
    · simp only [modeOfConfig, Option.bind_some, hraw, Mode.ofText?_eq_none_iff.2 hm]
  · intro h
    unfold modeOfConfig at h
    cases config with
    | none =>
      cases h
      exact .missing
    | some c =>
      cases hraw : c.numeric? with
      | none =>
        simp only [Option.bind_some, hraw] at h
        cases h
        exact .unset hraw
      | some raw =>
        cases hm : Mode.ofText? raw.toList with
        | none =>
          simp only [Option.bind_some, hraw, hm] at h
          cases h
          exact .unknown hraw (Mode.ofText?_eq_none_iff.1 hm)
        | some m =>
          simp only [Option.bind_some, hraw, hm] at h
          cases h
          exact .named hraw (Mode.ofText?_eq_some_iff.1 hm)

/-- How the sources are asked: the environment first; the configuration only where the environment gives no mode; and
the mode is `int` where neither gives one. -/
inductive Resolves (value : Option Bytes) (config : Option Config) : Mode → List Record → Prop where
  | environment {m : Mode} {rs : List Record} : EnvironmentGives value (some m) rs → Resolves value config m rs
  | config {m : Mode} {rs more : List Record} : EnvironmentGives value none rs → ConfigGives config (some m) more →
    Resolves value config m (rs ++ more)
  | neither {rs more : List Record} : EnvironmentGives value none rs → ConfigGives config none more →
    Resolves value config .int (rs ++ more)

theorem resolves_iff : Resolves value config m rs ↔ resolve value config = (m, rs) := by
  constructor
  · rintro (henv | ⟨henv, hconfig⟩ | ⟨henv, hconfig⟩)
    · simp only [resolve, environmentGives_iff.1 henv]
    · simp only [resolve, environmentGives_iff.1 henv, configGives_iff.1 hconfig, Option.getD_some]
    · simp only [resolve, environmentGives_iff.1 henv, configGives_iff.1 hconfig, Option.getD_none]
      rfl
  · intro h
    unfold resolve at h
    rcases henv : modeOfEnvironment value with ⟨_ | m, rs⟩
    · rcases hconfig : modeOfConfig config with ⟨_ | m, more⟩
      · simp only [henv, hconfig] at h
        cases h
        exact .neither (environmentGives_iff.2 henv) (configGives_iff.2 hconfig)
      · simp only [henv, hconfig] at h
        cases h
        exact .config (environmentGives_iff.2 henv) (configGives_iff.2 hconfig)
    · simp only [henv] at h
      cases h
      exact .environment (environmentGives_iff.2 henv)

end PointSum.Settings
