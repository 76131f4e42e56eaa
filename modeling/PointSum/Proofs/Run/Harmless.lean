import PointSum.Proofs.Run.Log
import PointSum.Proofs.Text.Terminal

/-!
# Messages that hold no commands

* `harmless_message` : the message of a record is harmless, whatever text it was made of;
* `message_of_append` : a harmless opening of a message stays as it is; `message_of_harmless` : so does a whole message;
* `mem_log_of_environment`, `mem_log_of_config` : the warnings that the sources leave are in the log;
* `openings` : how messages begin; `Logs.quotes` : a warning that opens as one about a source is about that source;
* `log_harmless` : no message of a run holds a command, and a warning quotes a harmless text verbatim.
-/

namespace PointSum

set_option autoImplicit false

open Text Settings
open Log (Record Filter Level)

variable {s : Surroundings} {r : CommandLine.Request} {w : Record} {given : Option Mode} {rs more : List Record}
  {cs : List Char} {raw lead other rest : String}

/-! ## Messages -/

theorem harmless_message (level : Level) (target : String) (fields : List String) (message : String) :
    Harmless (Record.of level target fields message).message.toList := by
  rw [Record.of, String.toList_ofList]
  exact harmless_disarm _

theorem Logs.harmless (h : Logs s w) : Harmless w.message.toList := by
  cases h <;> exact harmless_message _ _ _ _

theorem message_of_append (h : Harmless lead.toList) (level : Level) (target : String) (fields : List String)
    (rest : String) :
    (Record.of level target fields (lead ++ rest)).message = lead ++ .ofList (disarm rest.toList) := by
  rw [Record.of, String.toList_append, disarm_append, disarm_of_harmless h, String.ofList_append, String.ofList_toList]

theorem message_of_harmless {message : String} (h : Harmless message.toList) (level : Level) (target : String)
    (fields : List String) : (Record.of level target fields message).message = message := by
  rw [Record.of, disarm_of_harmless h, String.ofList_toList]

/-- The warning about settings whose message is the text as it stands. -/
def plainWarning (message : String) : Record :=
  ⟨.warn, "planar::config", ["message"], message⟩

theorem warning_of_harmless {message : String} (h : Harmless message.toList) :
    warning message = plainWarning message := by
  exact congrArg plainWarning (message_of_harmless h .warn logTarget ["message"])

/-! ## Warnings of the sources -/

theorem mem_log_of_resolve (hr : CommandLine.read s.arguments = .ok r)
    (h : w ∈ (resolve s.numeric (loadConfig s).1).2) : w ∈ (runUnfiltered s).log := by
  rw [log_runUnfiltered hr, chooseMode_records]
  exact List.mem_append_left _ (List.mem_append_right _ h)

theorem mem_log_of_environment (hr : CommandLine.read s.arguments = .ok r)
    (henv : EnvironmentGives s.numeric none rs) (h : w ∈ rs) : w ∈ (runUnfiltered s).log := by
  apply mem_log_of_resolve hr
  simp only [resolve, environmentGives_iff.1 henv]
  exact List.mem_append_left _ h

theorem mem_log_of_config (hr : CommandLine.read s.arguments = .ok r) (henv : EnvironmentGives s.numeric none rs)
    (hconfig : ConfigGives (loadConfig s).1 given more) (h : w ∈ more) : w ∈ (runUnfiltered s).log := by
  apply mem_log_of_resolve hr
  simp only [resolve, environmentGives_iff.1 henv, configGives_iff.1 hconfig]
  exact List.mem_append_right _ h

/-! ## Openings -/

/-- How the messages of a run begin. -/
def openings : List String :=
  ["Loaded config path=", "Adding points mode=", "Failed to read config at ", "Failed to parse config at ",
    "Ignoring non-UTF-8 PLANAR_NUMERIC value: ", "Ignoring unknown PLANAR_NUMERIC value: ",
    "Unknown numeric mode in config: "]

theorem harmless_opening (h : lead ∈ openings) : Harmless lead.toList := by
  have hall : ∀ a ∈ openings, Harmless a.toList := by decide +kernel
  exact hall lead h

theorem opening_eq_of_isPrefix (h : lead ∈ openings) (hother : other ∈ openings) (hle : lead.toList <+: other.toList) :
    lead = other := by
  have hall : ∀ a ∈ openings, ∀ b ∈ openings, a.toList <+: b.toList → a = b := by decide +kernel
  exact hall lead h other hother hle

/-- A message has one opening. -/
theorem opening_eq (h : lead ∈ openings) (hother : other ∈ openings) {level : Level} {target : String}
    {fields : List String} (hw : lead.toList <+: (Record.of level target fields (other ++ rest)).message.toList) :
    lead = other := by
  rw [message_of_append (harmless_opening hother), String.toList_append] at hw
  rcases List.prefix_or_prefix_of_prefix hw (List.prefix_append _ _) with hle | hle
  · exact opening_eq_of_isPrefix h hother hle
  · exact (opening_eq_of_isPrefix hother h hle).symm

theorem exists_addingRecord (m : Mode) (r : CommandLine.Request) :
    ∃ rest, addingRecord m r =
      .of .debug "planar" ["message", "mode", "lhs", "rhs"] ("Adding points mode=" ++ rest) := by
  simp only [addingRecord, String.append_assoc]
  exact ⟨_, rfl⟩

theorem exists_message (path : String) (e : ConfigFault) :
    (∃ rest, e.message path = "Failed to read config at " ++ rest) ∨
      ∃ rest, e.message path = "Failed to parse config at " ++ rest := by
  cases e with
  | isDirectory => exact .inl ⟨_, String.append_assoc⟩
  | notText => exact .inl ⟨_, String.append_assoc⟩
  | malformed => exact .inr ⟨_, String.append_assoc⟩

/-- A record whose message opens as those of one kind is of that kind: the record of an addition, or a warning about the
value of that source. -/
theorem Logs.quotes (h : Logs s w) (hlead : lead ∈ openings) (hw : lead.toList <+: w.message.toList) :
    (lead = "Ignoring unknown PLANAR_NUMERIC value: " →
      ∃ cs, s.numeric = some (encode cs) ∧ w = warning (lead ++ .ofList cs)) ∧
    (lead = "Unknown numeric mode in config: " →
      ∃ raw, (loadConfig s).1.bind Config.numeric? = some raw ∧ w = warning (lead ++ raw)) ∧
    (lead = "Ignoring non-UTF-8 PLANAR_NUMERIC value: " →
      ∃ bs, s.numeric = some bs ∧ w = warning (lead ++ .ofList (quoteBytes bs))) ∧
    (lead = "Adding points mode=" → ∃ m r, w = addingRecord m r) := by
  cases h with
  | loaded =>
    obtain rfl := opening_eq hlead (by decide) hw
    simp
  | adding m r =>
    obtain ⟨rest, hrest⟩ := exists_addingRecord m r
    rw [hrest] at hw
    obtain rfl := opening_eq hlead (by decide) hw
    exact ⟨by simp, by simp, by simp, fun _ => ⟨m, r, rfl⟩⟩
  | file e =>
    rcases exists_message (configPath s.home) e with ⟨rest, hrest⟩ | ⟨rest, hrest⟩
    · rw [hrest] at hw
      obtain rfl := opening_eq hlead (by decide) hw
      simp
    · rw [hrest] at hw
      obtain rfl := opening_eq hlead (by decide) hw
      simp
  | notText hbs =>
    obtain rfl := opening_eq hlead (by decide) hw
    exact ⟨by simp, by simp, fun _ => ⟨_, hbs, rfl⟩, by simp⟩
  | environment hcs =>
    obtain rfl := opening_eq hlead (by decide) hw
    exact ⟨fun _ => ⟨_, hcs, rfl⟩, by simp, by simp, by simp⟩
  | config hraw =>
    obtain rfl := opening_eq hlead (by decide) hw
    exact ⟨by simp, fun _ => ⟨_, hraw, rfl⟩, by simp, by simp⟩

/-! ## Logs -/

theorem mem_log_iff : w ∈ (run s).log ↔
    w ∈ (runUnfiltered s).log ∧ ∃ fs, Filter.ofSetting s.filter = .ok fs ∧ fs.shows w := by
  cases hfilter : Filter.ofSetting s.filter with
  | error t => simp [run_of_trap hfilter]
  | ok fs => simp [run_of_filter hfilter, Filter.select]

theorem mem_log_iff_shows (h : w ∈ (runUnfiltered s).log) :
    w ∈ (run s).log ↔ ∃ fs, Filter.ofSetting s.filter = .ok fs ∧ fs.shows w := by
  rw [mem_log_iff]
  exact and_iff_right h

theorem warning_of_environment (hs : s.numeric = some (encode cs)) (hw : w ∈ (run s).log)
    (hopens : "Ignoring unknown PLANAR_NUMERIC value: ".toList <+: w.message.toList) :
    w = warning ("Ignoring unknown PLANAR_NUMERIC value: " ++ .ofList cs) := by
  have hlogs := logs_of_mem (mem_log_iff.1 hw).1
  obtain ⟨ds, hds, hwarning⟩ := (hlogs.quotes (by decide) hopens).1 rfl
  obtain rfl := encode_injective (Option.some.inj (hds.symm.trans hs))
  exact hwarning

theorem warning_of_config (hs : (loadConfig s).1.bind Config.numeric? = some raw) (hw : w ∈ (run s).log)
    (hopens : "Unknown numeric mode in config: ".toList <+: w.message.toList) :
    w = warning ("Unknown numeric mode in config: " ++ raw) := by
  have hlogs := logs_of_mem (mem_log_iff.1 hw).1
  obtain ⟨other, hother, hwarning⟩ := (hlogs.quotes (by decide) hopens).2.1 rfl
  obtain rfl := Option.some.inj (hother.symm.trans hs)
  exact hwarning

theorem harmless_append_opening (hlead : lead ∈ openings) (h : Harmless rest.toList) :
    Harmless (lead ++ rest).toList := by
  rw [String.toList_append]
  exact harmless_append.2 ⟨harmless_opening hlead, h⟩

/-- No message of a run holds a character that a terminal obeys, whichever source the text of it came from. A warning
about a text of the environment or of the configuration that holds none has the text verbatim; and where the source is
asked and its text names no mode, the warning is in the log if the filter shows it. -/
theorem log_harmless (s : Surroundings) :
    (∀ w ∈ (run s).log, Harmless w.message.toList) ∧
    (∀ cs, s.numeric = some (encode cs) → Harmless cs →
      (∀ w ∈ (run s).log, "Ignoring unknown PLANAR_NUMERIC value: ".toList <+: w.message.toList →
        w = plainWarning ("Ignoring unknown PLANAR_NUMERIC value: " ++ .ofList cs)) ∧
      ∀ r, CommandLine.read s.arguments = .ok r → (∀ m, ¬ Mode.Names cs m) →
        (plainWarning ("Ignoring unknown PLANAR_NUMERIC value: " ++ .ofList cs) ∈ (run s).log ↔
          ∃ fs, Filter.ofSetting s.filter = .ok fs ∧
            fs.shows (plainWarning ("Ignoring unknown PLANAR_NUMERIC value: " ++ .ofList cs)))) ∧
    (∀ raw, (loadConfig s).1.bind Config.numeric? = some raw → Harmless raw.toList →
      (∀ w ∈ (run s).log, "Unknown numeric mode in config: ".toList <+: w.message.toList →
        w = plainWarning ("Unknown numeric mode in config: " ++ raw)) ∧
      ∀ r rs, CommandLine.read s.arguments = .ok r → EnvironmentGives s.numeric none rs →
        (∀ m, ¬ Mode.Names raw.toList m) →
        (plainWarning ("Unknown numeric mode in config: " ++ raw) ∈ (run s).log ↔
          ∃ fs, Filter.ofSetting s.filter = .ok fs ∧
            fs.shows (plainWarning ("Unknown numeric mode in config: " ++ raw)))) := by
  refine ⟨fun w hw => (logs_of_mem (mem_log_iff.1 hw).1).harmless, ?_, ?_⟩
  · intro cs hs hcs
    have hplain : warning ("Ignoring unknown PLANAR_NUMERIC value: " ++ .ofList cs) = plainWarning _ :=
      warning_of_harmless (harmless_append_opening (by decide) (by rwa [String.toList_ofList]))
    rw [← hplain]
    refine ⟨fun w hw hopens => warning_of_environment hs hw hopens, fun r hr hm => ?_⟩
    have henv := EnvironmentGives.unknown hm
    rw [← hs] at henv
    apply mem_log_iff_shows
    exact mem_log_of_environment hr henv (List.mem_singleton_self _)
  · intro raw hs hraw
    have hplain : warning ("Unknown numeric mode in config: " ++ raw) = plainWarning _ :=
      warning_of_harmless (harmless_append_opening (by decide) hraw)
    rw [← hplain]
    refine ⟨fun w hw hopens => warning_of_config hs hw hopens, fun r rs hr henv hm => ?_⟩
    obtain ⟨c, hc, hnumeric⟩ := Option.bind_eq_some_iff.1 hs
    have hconfig := ConfigGives.unknown hnumeric hm
    rw [← hc] at hconfig
    apply mem_log_iff_shows
    exact mem_log_of_config hr henv hconfig (List.mem_singleton_self _)

/-- Surroundings where escapes come from a point and, by an escape of TOML, from the configuration, and the value of
the environment names no mode. -/
def Surroundings.escaping : Surroundings where
  arguments := [encode "add".toList, encode "1,2\x1b[2J".toList, encode "3,4".toList]
  numeric := some (encode "décimal".toList)
  filter := everyLevel
  home := "/home"
  config := .file (encode "[app]\nnumeric = \"\\e[2J\\u009B\"\n".toList)

/-- The same without a value of the environment, and with a harmless setting in the configuration. -/
def Surroundings.configured : Surroundings :=
  { Surroundings.escaping with numeric := none, config := .file (encode "app.numeric = 'réel'\n".toList) }

theorem log_harmless_escaping :
    (plainWarning "Unknown numeric mode in config: \\x1b[2J\\u\x7b9b\x7d" ∈ (run .escaping).log ∧
      Harmless "Unknown numeric mode in config: \\x1b[2J\\u\x7b9b\x7d".toList) ∧
    (CommandLine.read Surroundings.escaping.arguments = .ok ⟨"1,2\x1b[2J", "3,4"⟩ ∧ Harmless "décimal".toList ∧
      (∀ m, ¬ Mode.Names "décimal".toList m) ∧
      plainWarning "Ignoring unknown PLANAR_NUMERIC value: décimal" ∈ (run .escaping).log) ∧
    (EnvironmentGives Surroundings.configured.numeric none [] ∧
      (loadConfig .configured).1.bind Config.numeric? = some "réel" ∧ Harmless "réel".toList ∧
      (∀ m, ¬ Mode.Names "réel".toList m) ∧
      plainWarning "Unknown numeric mode in config: réel" ∈ (run .configured).log) := by
  have hread : CommandLine.read Surroundings.escaping.arguments = .ok ⟨"1,2\x1b[2J", "3,4"⟩ := by decide +kernel
  have hwarning : plainWarning "Unknown numeric mode in config: \\x1b[2J\\u\x7b9b\x7d" ∈ (run .escaping).log := by
    decide +kernel
  have hvalue : ∀ m, ¬ Mode.Names "décimal".toList m := Mode.ofText?_eq_none_iff.1 (by decide +kernel)
  have hsetting : ∀ m, ¬ Mode.Names "réel".toList m := Mode.ofText?_eq_none_iff.1 (by decide +kernel)
  have hloaded : (loadConfig .configured).1.bind Config.numeric? = some "réel" := by decide +kernel
  have hshows : ∀ message, ∃ fs, Filter.ofSetting everyLevel = .ok fs ∧ fs.shows (plainWarning message) := by
    intro message
    refine ⟨_, ofSetting_everyLevel, ?_⟩
    rw [Filter.shows_level]
    rfl
  obtain ⟨hall, henvironment, -⟩ := log_harmless .escaping
  obtain ⟨-, -, hconfig⟩ := log_harmless .configured
  obtain ⟨-, hvalueIff⟩ := henvironment "décimal".toList rfl (by decide)
  obtain ⟨-, hsettingIff⟩ := hconfig "réel" hloaded (by decide)
  exact ⟨⟨hwarning, hall _ hwarning⟩,
    ⟨hread, by decide, hvalue, (hvalueIff _ hread hvalue).2 (hshows _)⟩,
    .unset, hloaded, by decide, hsetting, (hsettingIff _ _ hread .unset hsetting).2 (hshows _)⟩

end PointSum
