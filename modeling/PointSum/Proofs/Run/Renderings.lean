import PointSum.Proofs.Run.Harmless
import PointSum.Proofs.Text.Quoted

/-!
# What literal forms tell

* `Overflow.literal_inj` : the literal form of an overflow tells its axis and its operands;
* `message_addingRecord_inj` : the record of an addition tells the mode and the points as they were written;
  `adding_of_mem` : a record of a run that opens as one of an addition is the one of its own addition;
* `message_notText_inj` : the warning about a value that is no text tells its bytes, `notText_of_mem` : and a run that
  gives it has that value;
* `renderings_tell` : the literal forms that a run leaves tell what they were made of.
-/

namespace PointSum

set_option autoImplicit false

open Text Settings
open Log (Record Filter Level)

variable {s : Surroundings} {r r' : CommandLine.Request} {m m' : Mode} {w : Record} {rs : List Record}
  {config : Option Config} {value : Option Bytes} {given : Option Mode} {bs bs' : Bytes} {cs ds : List Char}

/-! ## Overflows -/

theorem Axis.literal_append_inj {a a' : Axis} :
    a.literal.toList ++ cs = a'.literal.toList ++ ds ↔ a = a' ∧ cs = ds := by
  cases a <;> cases a' <;> simp [Axis.literal]

theorem quote_toList_append_inj {t u : String} :
    quote t.toList ++ cs = quote u.toList ++ ds ↔ t = u ∧ cs = ds := by
  rw [quote_append_inj, String.toList_inj]

theorem Overflow.toList_literal (o : Overflow) :
    o.literal.toList = "Overflow \x7b axis: ".toList ++ (o.axis.literal.toList ++ (", lhs: ".toList ++
      (quote o.lhs.toList ++ (", rhs: ".toList ++ (quote o.rhs.toList ++ " \x7d".toList))))) := by
  unfold literal
  simp only [String.toList_append, String.toList_ofList, List.append_assoc]

/-- The literal form of an overflow tells its axis and its operands, whatever they hold. -/
theorem Overflow.literal_inj {o o' : Overflow} : o.literal = o'.literal ↔ o = o' := by
  obtain ⟨axis, lhs, rhs⟩ := o
  obtain ⟨axis', lhs', rhs'⟩ := o'
  rw [← String.toList_inj, toList_literal, toList_literal, List.append_right_inj, Axis.literal_append_inj,
    List.append_right_inj, quote_toList_append_inj, List.append_right_inj, quote_toList_append_inj, and_iff_left rfl,
    Overflow.mk.injEq]

/-! ## Additions -/

theorem Mode.literal_append_inj :
    m.literal.toList ++ cs = m'.literal.toList ++ ds ↔ m = m' ∧ cs = ds := by
  cases m <;> cases m' <;> simp [Mode.literal]

theorem harmless_literal (m : Mode) : Harmless m.literal.toList := by
  cases m <;> decide

/-- The record of an addition has its message as it stands. -/
theorem toList_message_addingRecord (m : Mode) (r : CommandLine.Request) :
    (addingRecord m r).message.toList = "Adding points mode=".toList ++ (m.literal.toList ++ (" lhs=".toList ++
      (quote r.lhs.toList ++ (" rhs=".toList ++ (quote r.rhs.toList ++ []))))) := by
  rw [addingRecord, message_of_harmless]
  · simp only [String.toList_append, String.toList_ofList, List.append_assoc, List.append_nil]
  · simp only [String.toList_append, String.toList_ofList, harmless_append]
    exact ⟨⟨⟨⟨⟨by decide, harmless_literal m⟩, by decide⟩, harmless_quote _⟩, by decide⟩, harmless_quote _⟩

/-- The record of an addition tells the mode and the points as they were written, even if a point holds what stands
between the two. -/
theorem message_addingRecord_inj :
    (addingRecord m r).message = (addingRecord m' r').message ↔ m = m' ∧ r.lhs = r'.lhs ∧ r.rhs = r'.rhs := by
  rw [← String.toList_inj, toList_message_addingRecord, toList_message_addingRecord, List.append_right_inj,
    Mode.literal_append_inj, List.append_right_inj, quote_toList_append_inj, List.append_right_inj,
    quote_toList_append_inj, and_iff_left rfl]

/-! ## Runs -/

theorem FileGives.target {home : String} {file : ConfigFile} (h : FileGives home file config rs) (hw : w ∈ rs) :
    w.target = logTarget := by
  cases h with
  | missing => cases hw
  | _ =>
    rw [List.mem_singleton.1 hw]
    rfl

theorem target_of_environmentGives (h : EnvironmentGives value given rs) (hw : w ∈ rs) : w.target = logTarget := by
  cases h with
  | unset | named => cases hw
  | _ =>
    rw [List.mem_singleton.1 hw]
    rfl

theorem target_of_configGives (h : ConfigGives config given rs) (hw : w ∈ rs) : w.target = logTarget := by
  cases h with
  | unknown =>
    rw [List.mem_singleton.1 hw]
    rfl
  | _ => cases hw

theorem target_of_resolves (h : Resolves value config m rs) (hw : w ∈ rs) : w.target = logTarget := by
  cases h with
  | environment henv => exact target_of_environmentGives henv hw
  | config henv hconfig | neither henv hconfig =>
    rcases List.mem_append.1 hw with hw | hw
    · exact target_of_environmentGives henv hw
    · exact target_of_configGives hconfig hw

/-- What is logged before the addition is about settings. -/
theorem target_of_mem_chooseMode (hw : w ∈ (chooseMode s).2) : w.target = logTarget := by
  rw [chooseMode_records] at hw
  rcases List.mem_append.1 hw with hw | hw
  · exact (fileGives_iff.2 rfl).target hw
  · exact target_of_resolves (resolves_iff.2 rfl) hw

/-- A record of a run that opens as one of an addition is the one of the addition that the run was asked for. -/
theorem adding_of_mem (hw : w ∈ (run s).log) (hopens : "Adding points mode=".toList <+: w.message.toList) :
    ∃ r, CommandLine.read s.arguments = .ok r ∧ w = addingRecord (chooseMode s).1 r := by
  have hw := (mem_log_iff.1 hw).1
  obtain ⟨-, -, -, hadding⟩ := (logs_of_mem hw).quotes (by decide) hopens
  cases hread : CommandLine.read s.arguments with
  | error stop =>
    rw [runUnfiltered_of_stop hread, log_stopped] at hw
    cases hw
  | ok r =>
    refine ⟨r, rfl, ?_⟩
    rw [log_runUnfiltered hread] at hw
    rcases List.mem_append.1 hw with hw | hw
    · obtain ⟨m, r', rfl⟩ := hadding rfl
      exact absurd (target_of_mem_chooseMode hw) (show "planar" ≠ logTarget by decide)
    · exact List.mem_singleton.1 hw

/-! ## Values that are no text -/

theorem toList_message_notText (bs : Bytes) :
    (warning ("Ignoring non-UTF-8 PLANAR_NUMERIC value: " ++ .ofList (quoteBytes bs))).message.toList =
      "Ignoring non-UTF-8 PLANAR_NUMERIC value: ".toList ++ quoteBytes bs := by
  have hbs : Harmless (String.ofList (quoteBytes bs)).toList := by
    rw [String.toList_ofList]
    exact harmless_quoteBytes bs
  rw [warning, message_of_harmless (harmless_append_opening (by decide) hbs)]
  simp only [String.toList_append, String.toList_ofList]

/-- The warning about a value that is no text tells its bytes. -/
theorem message_notText_inj :
    (warning ("Ignoring non-UTF-8 PLANAR_NUMERIC value: " ++ .ofList (quoteBytes bs))).message =
      (warning ("Ignoring non-UTF-8 PLANAR_NUMERIC value: " ++ .ofList (quoteBytes bs'))).message ↔ bs = bs' := by
  rw [← String.toList_inj, toList_message_notText, toList_message_notText, List.append_right_inj, quoteBytes_inj]

theorem notText_of_mem (hs : s.numeric = some bs) (hw : w ∈ (run s).log)
    (hopens : "Ignoring non-UTF-8 PLANAR_NUMERIC value: ".toList <+: w.message.toList) :
    w = warning ("Ignoring non-UTF-8 PLANAR_NUMERIC value: " ++ .ofList (quoteBytes bs)) := by
  obtain ⟨-, -, hnotText, -⟩ := (logs_of_mem (mem_log_iff.1 hw).1).quotes (by decide) hopens
  obtain ⟨bs', hbs', hwarning⟩ := hnotText rfl
  obtain rfl := Option.some.inj (hbs'.symm.trans hs)
  exact hwarning

/-! ## What is told -/

/-- The literal forms that are written lose nothing. The literal form of an overflow tells its axis and its operands; of
two runs that log their addition, the messages are the same if and only if the modes are, and the points as they were
given; and of two runs that warn of a value of the environment that is no text, the messages are the same if and only
if the values are. A run that gets to add logs its addition, and warns of such a value. -/
theorem renderings_tell :
    (∀ o o' : Overflow, o.literal = o'.literal ↔ o = o') ∧
    (∀ s s' : Surroundings, ∀ w ∈ (run s).log, ∀ w' ∈ (run s').log,
      "Adding points mode=".toList <+: w.message.toList → "Adding points mode=".toList <+: w'.message.toList →
      ∃ r r', CommandLine.read s.arguments = .ok r ∧ CommandLine.read s'.arguments = .ok r' ∧
        (w.message = w'.message ↔ (chooseMode s).1 = (chooseMode s').1 ∧ r.lhs = r'.lhs ∧ r.rhs = r'.rhs)) ∧
    (∀ (s s' : Surroundings) (bs bs' : Bytes), s.numeric = some bs → s'.numeric = some bs' →
      ∀ w ∈ (run s).log, ∀ w' ∈ (run s').log,
        "Ignoring non-UTF-8 PLANAR_NUMERIC value: ".toList <+: w.message.toList →
        "Ignoring non-UTF-8 PLANAR_NUMERIC value: ".toList <+: w'.message.toList →
        (w.message = w'.message ↔ bs = bs')) ∧
    ∀ (s : Surroundings) (r : CommandLine.Request), CommandLine.read s.arguments = .ok r →
      (∃ w ∈ (run { s with filter := everyLevel }).log, "Adding points mode=".toList <+: w.message.toList) ∧
      ∀ bs, s.numeric = some bs → (∀ cs, encode cs ≠ bs) → ∃ w ∈ (run { s with filter := everyLevel }).log,
        "Ignoring non-UTF-8 PLANAR_NUMERIC value: ".toList <+: w.message.toList := by
  refine ⟨fun _ _ => Overflow.literal_inj, ?_, ?_, ?_⟩
  · intro s s' w hw w' hw' hopens hopens'
    obtain ⟨r, hr, rfl⟩ := adding_of_mem hw hopens
    obtain ⟨r', hr', rfl⟩ := adding_of_mem hw' hopens'
    exact ⟨r, r', hr, hr', message_addingRecord_inj⟩
  · intro s s' bs bs' hs hs' w hw w' hw' hopens hopens'
    rw [notText_of_mem hs hw hopens, notText_of_mem hs' hw' hopens']
    exact message_notText_inj
  · intro s r hr
    rw [log_everyLevel]
    constructor
    · refine ⟨addingRecord (chooseMode s).1 r, ?_, ?_⟩
      · rw [log_runUnfiltered hr]
        exact List.mem_append_right _ (List.mem_singleton_self _)
      · rw [toList_message_addingRecord]
        exact List.prefix_append _ _
    · intro bs hs hbs
      have henv := EnvironmentGives.notText hbs
      rw [← hs] at henv
      refine ⟨_, mem_log_of_environment hr henv (List.mem_singleton_self _), ?_⟩
      rw [toList_message_notText]
      exact List.prefix_append _ _

/-- Surroundings where the first point holds what stands between the points in the record of an addition, and the value
of the environment, which is no text, begins with the form of a byte. -/
def Surroundings.quoting : Surroundings where
  arguments := [encode "add".toList, encode "1\" rhs=\"2".toList, encode "3".toList]
  numeric := some [0x5C, 0x78, 0x46, 0x46, 0xFF]
  filter := everyLevel
  home := "/home"
  config := .missing

/-- The same where the second point holds it, and the value begins with the byte. -/
def Surroundings.requoting : Surroundings :=
  { Surroundings.quoting with
    arguments := [encode "add".toList, encode "1".toList, encode "2\" rhs=\"3".toList]
    numeric := some [0xFF, 0xFF] }

theorem renderings_tell_quoting :
    (⟨.x, "1\", rhs: \"2", "3"⟩ : Overflow).literal ≠ (⟨.x, "1", "2\", rhs: \"3"⟩ : Overflow).literal ∧
    (CommandLine.read Surroundings.quoting.arguments = .ok ⟨"1\" rhs=\"2", "3"⟩ ∧
      CommandLine.read Surroundings.requoting.arguments = .ok ⟨"1", "2\" rhs=\"3"⟩ ∧
      ∃ w ∈ (run .quoting).log, ∃ w' ∈ (run .requoting).log, "Adding points mode=".toList <+: w.message.toList ∧
        "Adding points mode=".toList <+: w'.message.toList ∧ w.message ≠ w'.message) ∧
    (∀ cs, encode cs ≠ [0x5C, 0x78, 0x46, 0x46, 0xFF]) ∧ (∀ cs, encode cs ≠ [0xFF, 0xFF]) ∧
      ∃ w ∈ (run .quoting).log, ∃ w' ∈ (run .requoting).log,
        "Ignoring non-UTF-8 PLANAR_NUMERIC value: ".toList <+: w.message.toList ∧
        "Ignoring non-UTF-8 PLANAR_NUMERIC value: ".toList <+: w'.message.toList ∧ w.message ≠ w'.message := by
  have hread : CommandLine.read Surroundings.quoting.arguments = .ok ⟨"1\" rhs=\"2", "3"⟩ := by decide +kernel
  have hread' : CommandLine.read Surroundings.requoting.arguments = .ok ⟨"1", "2\" rhs=\"3"⟩ := by decide +kernel
  have hbs : ∀ cs, encode cs ≠ [0x5C, 0x78, 0x46, 0x46, 0xFF] := decode?_eq_none_iff.1 (by decide +kernel)
  have hbs' : ∀ cs, encode cs ≠ [0xFF, 0xFF] := decode?_eq_none_iff.1 (by decide +kernel)
  obtain ⟨hoverflow, hadding, hvalue, hlogged⟩ := renderings_tell
  obtain ⟨⟨w, hw, hopens⟩, hwarned⟩ := hlogged .quoting _ hread
  obtain ⟨⟨w', hw', hopens'⟩, hwarned'⟩ := hlogged .requoting _ hread'
  obtain ⟨v, hv, hv_opens⟩ := hwarned _ rfl hbs
  obtain ⟨v', hv', hv_opens'⟩ := hwarned' _ rfl hbs'
  refine ⟨?_, ⟨hread, hread', w, hw, w', hw', hopens, hopens', ?_⟩, hbs, hbs', v, hv, v', hv', hv_opens, hv_opens', ?_⟩
  · rw [Ne, hoverflow]
    decide
  · obtain ⟨r, r', hr, hr', htell⟩ := hadding .quoting .requoting w hw w' hw' hopens hopens'
    obtain rfl := Except.ok.inj (hread.symm.trans hr)
    obtain rfl := Except.ok.inj (hread'.symm.trans hr')
    rw [Ne, htell]
    decide +kernel
  · rw [Ne, hvalue .quoting .requoting _ _ rfl rfl v hv v' hv' hv_opens hv_opens']
    decide

end PointSum
