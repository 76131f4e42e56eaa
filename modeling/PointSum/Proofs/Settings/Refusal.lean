import PointSum.Proofs.Text.Utf8
import PointSum.Proofs.Toml.Reading
import PointSum.Settings.Resolve

/-!
# Files that give no configuration

A file is taken whole or not at all: what is well written in it counts for nothing if something else in it is not.

* `Refused home file` : the file gives no configuration, but one warning, and the mode does not depend on it;
  `refused_of_decode?`, `refused_of_read?`, `refused_of_ofTable?` : files are refused that are no text, no document, or
  a document without a configuration;
* `Config.exists_of_ofTable?`, `Section.get?_of_ofTable?` : where in the tree of a document the setting is;
* `file_refused` : bytes that are no text anywhere, a line behind any bytes that is an equals sign, and a second header
  behind a file with the setting in it.
-/

namespace PointSum.Settings

set_option autoImplicit false

open Text Toml

variable {bs : Bytes} {cs : List Char} {s home : String} {root : Table Value} {e : ConfigFault} {file : ConfigFile}

/-- The file gives no configuration and leaves one warning; the mode is that of the environment, or else `int`, and
there are no warnings but those of the environment. -/
structure Refused (home : String) (file : ConfigFile) : Prop where
  config : ∃ r, file.config home = (none, [r]) ∧ r.level = .warn
  mode : ∀ value, resolve value (file.config home).1 =
    ((modeOfEnvironment value).1.getD .int, (modeOfEnvironment value).2)

theorem resolve_none (value : Option Bytes) :
    resolve value none = ((modeOfEnvironment value).1.getD .int, (modeOfEnvironment value).2) := by
  unfold resolve
  rcases modeOfEnvironment value with ⟨_ | m, records⟩
  · simp [modeOfConfig, Mode.fallback]
  · rfl

theorem refused_of_load (h : file.load = .error e) (home : String) : Refused home file := by
  have hconfig : file.config home = (none, [warning (e.message (configPath home))]) := by
    simp only [ConfigFile.config, h]
  constructor
  · exact ⟨_, hconfig, rfl⟩
  · intro value
    rw [hconfig, resolve_none]

theorem refused_of_decode? (h : decode? bs = none) (home : String) : Refused home (.file bs) := by
  apply refused_of_load (e := .notText)
  simp only [ConfigFile.load, h]

theorem refused_of_ofTable? (h : ∀ root, Toml.read? cs = some root → Config.ofTable? root = none) (home : String) :
    Refused home (.file (encode cs)) := by
  have hnone : (Toml.read? cs).bind Config.ofTable? = none := Option.bind_eq_none_iff.2 h
  have hread : Config.read cs = .error .malformed := by
    rw [Config.read, hnone]
  apply refused_of_load (e := .malformed)
  simp only [ConfigFile.load, decode?_encode, hread]
  rfl

theorem refused_of_read? (h : Toml.read? cs = none) (home : String) : Refused home (.file (encode cs)) := by
  apply refused_of_ofTable?
  intro root hroot
  rw [h] at hroot
  cases hroot

/-! ## Where the setting is -/

theorem textOf?_eq_some_iff {v : Value} : textOf? v = some s ↔ v = .text s := by
  cases v <;> simp [textOf?]

theorem Section.get?_of_ofTable? {t : Table Value} (h : Section.ofTable? t = some ⟨some s⟩) :
    t.get? "numeric" = some (.text s) := by
  unfold Section.ofTable? at h
  cases hv : t.get? "numeric" with
  | none => simp [hv] at h
  | some v =>
    have htext : arePassableBeside "numeric" t = true ∧ textOf? v = some s := by simpa [hv] using h
    rw [textOf?_eq_some_iff.1 htext.2]

theorem Config.exists_of_ofTable? (h : Config.ofTable? root = some ⟨some ⟨some s⟩⟩) :
    ∃ v, root.get? "app" = some v ∧ Section.ofValue? v = some ⟨some s⟩ := by
  unfold Config.ofTable? at h
  cases hv : root.get? "app" with
  | none => simp [hv] at h
  | some v =>
    have hsection : arePassableBeside "app" root = true ∧ Section.ofValue? v = some ⟨some s⟩ := by simpa [hv] using h
    exact ⟨v, rfl, hsection.2⟩

theorem exists_of_config {c : Config} (h : ((ConfigFile.file bs).config home).1 = some c) :
    ∃ cs root, encode cs = bs ∧ Toml.read? cs = some root ∧ Config.ofTable? root = some c := by
  unfold ConfigFile.config ConfigFile.load Config.read at h
  cases hcs : decode? bs with
  | none => simp [hcs] at h
  | some cs =>
    cases hroot : (Toml.read? cs).bind Config.ofTable? with
    | none => simp [hcs, hroot, Except.map] at h
    | some c' =>
      obtain ⟨root, hread, hc⟩ := Option.bind_eq_some_iff.1 hroot
      obtain rfl : c' = c := by simpa [hcs, hroot, Except.map] using h
      exact ⟨cs, root, decode?_eq_some_iff.1 hcs, hread, hc⟩

/-! ## Refused files -/

theorem refused_equals (bs : Bytes) (n : Nat) (home : String) :
    Refused home (.file (bs ++ encode ('\n' :: '=' :: List.replicate n '\n'))) := by
  have hnewline : encode ('\n' :: '=' :: List.replicate n '\n') = 0x0A :: encode ('=' :: List.replicate n '\n') := rfl
  cases h : decode? (bs ++ encode ('\n' :: '=' :: List.replicate n '\n')) with
  | none => exact refused_of_decode? h home
  | some cs =>
    rw [hnewline] at h
    obtain ⟨ds, -, hds, -⟩ := decode?_append_ascii (by decide) h
    rw [← decode?_eq_some_iff.1 hds, ← encode_append]
    exact refused_of_read? (read?_equals ds n) home

theorem refused_header (h : ((ConfigFile.file bs).config home).1 = some ⟨some ⟨some s⟩⟩) (rest : List Char) :
    Refused home (.file (bs ++ encode ("\n[app]".toList ++ rest))) := by
  obtain ⟨cs, root, rfl, hread, hroot⟩ := exists_of_config h
  obtain ⟨v, hget, hsection⟩ := Config.exists_of_ofTable? hroot
  have hv : ∀ t, v = .table t → ∃ j w, t.get? j = some w ∧ ¬ w.IsTable := by
    rintro t rfl
    exact ⟨"numeric", .text s, Section.get?_of_ofTable? hsection, by simp [Value.IsTable]⟩
  have happ : IsBareKey "app".toList := ⟨by decide, List.all_eq_true.1 rfl⟩
  have hnone := read?_header hread happ hget hv rest
  rw [← encode_append]
  rw [List.append_assoc] at hnone
  exact refused_of_read? hnone home

/-- A file is refused if its bytes are no text, wherever the fault is; if its last line is an equals sign, whatever
stands before; and if a file that gives the setting goes on with a header for the section, however the section is
written there, with or without the setting again. -/
theorem file_refused (home : String) (bs : Bytes) :
    ((∀ cs, encode cs ≠ bs) → Refused home (.file bs)) ∧
    (∀ n, Refused home (.file (bs ++ encode ('\n' :: '=' :: List.replicate n '\n')))) ∧
    (∀ s, ((ConfigFile.file bs).config home).1 = some ⟨some ⟨some s⟩⟩ →
      ∀ rest, Refused home (.file (bs ++ encode ("\n[app]\n" ++ rest).toList))) := by
  refine ⟨fun hbs => ?_, fun n => ?_, fun s hs rest => ?_⟩
  · exact refused_of_decode? (decode?_eq_none_iff.2 hbs) home
  · exact refused_equals bs n home
  · rw [String.toList_append]
    exact refused_header hs ('\n' :: rest.toList)

/-- A byte that is no text in a comment behind a complete section, an equals sign behind a text that is not closed, and
a second header behind a dotted key. -/
theorem file_refused_whole :
    (∀ cs, encode cs ≠ encode "[app]\nnumeric = 'float'\n# ".toList ++ [0xFF]) ∧
    Refused "/home" (.file (encode "[app]\nnumeric = 'float'\n# ".toList ++ [0xFF])) ∧
    Refused "/home" (.file (encode "app.numeric = 'float'\nx = '''".toList ++ encode "\n=\n".toList)) ∧
    ((ConfigFile.file (encode "app.numeric = 'float'".toList)).config "/home").1 = some ⟨some ⟨some "float"⟩⟩ ∧
    Refused "/home" (.file (encode "app.numeric = 'float'".toList ++
      encode ("\n[app]\n" ++ "numeric = \"int\"\n").toList)) := by
  have hbytes : ∀ cs, encode cs ≠ encode "[app]\nnumeric = 'float'\n# ".toList ++ [0xFF] :=
    decode?_eq_none_iff.1 (by decide +kernel)
  have hsetting : ((ConfigFile.file (encode "app.numeric = 'float'".toList)).config "/home").1 =
      some ⟨some ⟨some "float"⟩⟩ := by decide +kernel
  refine ⟨hbytes, (file_refused "/home" _).1 hbytes, ?_, hsetting, ?_⟩
  · exact (file_refused "/home" _).2.1 1
  · exact (file_refused "/home" _).2.2 _ hsetting _

end PointSum.Settings
