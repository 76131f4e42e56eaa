import PointSum.Proofs.CommandLine.Request

/-!
# The word that decides

* `Decides ws s` : whatever words stand behind `ws`, the command line leads to the stop `s`; `DecidesAdd taken ws s` :
  so do the words behind `add` and the points taken;
* `exists_decides_word` : a first word decides, unless it is `add`, `help` or `--`;
* `exists_decidesAdd` : behind `add` a third word decides at the latest, if none of them is `--`;
* `decidesAdd_help` : behind at most two points a request for help decides;
* `read_decided` : all this for command lines.
-/

namespace PointSum.CommandLine

set_option autoImplicit false

open Text (Bytes)

/-- The words lead to the stop, whatever words stand behind them. -/
def Decides (ws : List Bytes) (s : Stop) : Prop := ∀ rest, read (ws ++ rest) = .error s

/-- The same for words behind `add` and the points taken. -/
def DecidesAdd (taken ws : List Bytes) (s : Stop) : Prop := ∀ rest, readAdd taken (ws ++ rest) = .error s

variable {v w : Bytes} {vs ws taken taken' : List Bytes} {s : Stop}

/-! ## The place of a command -/

theorem ofWord_eq_escape_iff : Shape.ofWord w = .escape ↔ w = escapeWord := by
  constructor
  · intro h
    unfold Shape.ofWord at h
    split at h
    · split_ifs at h with ha hb hrest
      · simp only [ne_eq, not_not] at ha hb
        rw [ha, hb, hrest]
        decide
      · cases h
    · cases h
  · rintro rfl
    exact ofWord_escapeWord

/-- Words are looked at behind a word in the place of a command only if that is `--`. -/
theorem stopWord_congr (h : w ≠ escapeWord) (ws vs : List Bytes) : stopWord w ws = stopWord w vs := by
  unfold stopWord
  split
  · next hw => exact absurd (ofWord_eq_escape_iff.1 hw) h
  · rfl
  · rfl
  · rfl

theorem command?_eq_none (hadd : w ≠ bytesOf "add") (hhelp : w ≠ bytesOf "help") :
    Scope.program.command? w = none := by
  simp [Scope.command?, Scope.commands, Ne.symm hadd, Ne.symm hhelp]

theorem exists_decides_word (hadd : w ≠ bytesOf "add") (hhelp : w ≠ bytesOf "help") (hescape : w ≠ escapeWord) :
    ∃ s, Decides [w] s := by
  refine ⟨stopWord w [], fun rest => ?_⟩
  rw [List.singleton_append, read, command?_eq_none hadd hhelp]
  exact congrArg _ (stopWord_congr hescape rest [])

/-! ## Behind `add` -/

theorem decides_add (h : DecidesAdd [] ws s) : Decides (bytesOf "add" :: ws) s := by
  intro rest
  rw [List.cons_append, read, command?_eq_add_iff.2 rfl]
  exact h rest

theorem decidesAdd_of_stop (h : addMeaning taken w = .stop s) : DecidesAdd taken (w :: ws) s := by
  intro rest
  rw [List.cons_append, readAdd, h]

theorem decidesAdd_of_refused (h : addMeaning taken w = .operand) (htake : takeOperand taken w = .error s) :
    DecidesAdd taken (w :: ws) s := by
  intro rest
  simp only [List.cons_append, readAdd, h, htake]

theorem DecidesAdd.behind (h : DecidesAdd taken' ws s) (hw : addMeaning taken w = .operand)
    (htake : takeOperand taken w = .ok taken') : DecidesAdd taken (w :: ws) s := by
  intro rest
  simp only [List.cons_append, readAdd, hw, htake]
  exact h rest

/-- Of more words than there are points to take one decides. -/
theorem exists_decidesAdd (hescape : escapeWord ∉ ws) (htaken : taken.length ≤ 2)
    (hlen : 2 < taken.length + ws.length) : ∃ s, DecidesAdd taken ws s := by
  -- A word that does not decide is taken, so the words ahead and those taken stay as many.
  induction ws generalizing taken with
  | nil =>
    rw [List.length_nil] at hlen
    omega
  | cons w ws ih =>
    rw [List.mem_cons, not_or] at hescape
    obtain ⟨hw, hws⟩ := hescape
    rcases addMeaning_cases taken w with ⟨h, -⟩ | ⟨-, ⟨-, hmeaning⟩ | ⟨⟨s, hmeaning⟩, -⟩⟩
    · exact absurd h.symm hw
    · cases htake : takeOperand taken w with
      | error s => exact ⟨s, decidesAdd_of_refused hmeaning htake⟩
      | ok taken' =>
        obtain ⟨hlt, -, rfl⟩ := takeOperand_eq_ok_iff.1 htake
        have hmore : (taken ++ [w]).length = taken.length + 1 := by simp
        rw [List.length_cons] at hlen
        obtain ⟨s, hs⟩ : ∃ s, DecidesAdd (taken ++ [w]) ws s := ih hws (by omega) (by omega)
        exact ⟨s, hs.behind hmeaning htake⟩
    · exact ⟨s, decidesAdd_of_stop hmeaning⟩

/-! ## Requests for help -/

theorem addMeaning_letter (h : endsBroken taken = false) : addMeaning taken (bytesOf "-h") = .stop (.help .add) := by
  have hshape : Shape.ofWord (bytesOf "-h") = .short [0x68] := by decide
  have hall : [0x68].all (fun b => Scope.add.flags.any fun f => bytesOf (.singleton f.letter) = [b]) = true := by
    decide
  have hstop : shortStop .add [0x68] = .help .add := by decide +kernel
  simp only [addMeaning, hshape, hall, not_true_eq_false, and_false, if_false, hstop]
  rw [addFlagStop, h, Bool.and_false, if_neg Bool.false_ne_true]

theorem addMeaning_name (h : endsBroken taken = false) :
    addMeaning taken (bytesOf "--help") = .stop (.help .add) := by
  have hshape : Shape.ofWord (bytesOf "--help") = .long (bytesOf "help") none := by decide
  have hflag : Scope.add.flag? (bytesOf "help") = some .help := add_flag?_eq_some_iff.2 ⟨rfl, rfl⟩
  simp only [addMeaning, hshape, decode?_bytesOf, Option.isNone_some, hflag, Flag.stop]
  rw [addFlagStop, h, Bool.and_false, if_neg Bool.false_ne_true]
  rfl

/-- The word is a point wherever one can stand, and does not begin as the words that ask for help. -/
structure IsValue (v : Bytes) : Prop where
  text : IsText v
  ne_escape : v ≠ escapeWord
  not_letter : ¬ bytesOf "-h" <+: v
  not_name : ¬ bytesOf "--help" <+: v

theorem IsValue.not_asksHelp (h : IsValue v) : ¬ AsksHelp v := by
  rintro (rfl | rfl | hv)
  · exact h.not_letter (List.prefix_refl _)
  · exact h.not_name (List.prefix_refl _)
  · exact h.not_name (List.IsPrefix.trans (by decide) hv)

theorem IsValue.not_isCluster (h : IsValue v) : ¬ IsCluster v := by
  rintro ⟨k, rfl⟩
  exact h.not_letter ⟨List.replicate (k + 1) 0x68, rfl⟩

theorem IsValue.addMeaning (h : IsValue v) (htaken : taken.length < 2) : addMeaning taken v = .operand := by
  rcases addMeaning_cases taken v with ⟨hv, -⟩ | ⟨-, ⟨-, hmeaning⟩ | ⟨-, hhelp | hcluster | hlen | hbroken⟩⟩
  · exact absurd hv h.ne_escape
  · exact hmeaning
  · exact absurd hhelp h.not_asksHelp
  · exact absurd hcluster h.not_isCluster
  · omega
  · obtain ⟨t, rfl⟩ := h.text
    rw [decode?_bytesOf] at hbroken
    cases hbroken

theorem decidesAdd_help (hvs : ∀ v ∈ vs, IsValue v) (hlen : taken.length + vs.length ≤ 2)
    (hbroken : endsBroken taken = false) (hw : w = bytesOf "-h" ∨ w = bytesOf "--help") :
    DecidesAdd taken (vs ++ [w]) (.help .add) := by
  induction vs generalizing taken with
  | nil =>
    rcases hw with rfl | rfl
    · exact decidesAdd_of_stop (addMeaning_letter hbroken)
    · exact decidesAdd_of_stop (addMeaning_name hbroken)
  | cons v vs ih =>
    rw [List.length_cons] at hlen
    obtain ⟨hv, hvs⟩ := List.forall_mem_cons.1 hvs
    have htake : takeOperand taken v = .ok (taken ++ [v]) := takeOperand_eq_ok_iff.2 ⟨by omega, hbroken, rfl⟩
    have hmore : (taken ++ [v]).length = taken.length + 1 := by simp
    have hsound : endsBroken (taken ++ [v]) = false := by
      obtain ⟨t, rfl⟩ := hv.text
      exact endsBroken_concat_bytesOf taken t
    exact (ih hvs (by omega) hsound).behind (hv.addMeaning (by omega)) htake

/-! ## Command lines -/

/-- A command line is decided from left to right, and what stands behind the deciding word changes nothing. A first word
that is no command and not `--` decides. Behind `add` the third word decides at the latest, if none of the three is
`--`. And a request for help behind at most two points has the answer of `help add`. A command line that is decided so
is no addition, and its stop holds all that is shown: the kind, the text, the status and the stream. -/
theorem read_decided :
    (∀ w, w ≠ bytesOf "add" → w ≠ bytesOf "help" → w ≠ escapeWord → ∃ s, Decides [w] s) ∧
    (∀ v₁ v₂ t, v₁ ≠ escapeWord → v₂ ≠ escapeWord → t ≠ escapeWord →
      ∃ s, Decides [bytesOf "add", v₁, v₂, t] s) ∧
    read [bytesOf "help", bytesOf "add"] = .error (.help .add) ∧
    ∀ vs, vs.length ≤ 2 → (∀ v ∈ vs, IsValue v) →
      Decides (bytesOf "add" :: vs ++ [bytesOf "--help"]) (.help .add) ∧
        Decides (bytesOf "add" :: vs ++ [bytesOf "-h"]) (.help .add) := by
  refine ⟨fun w => exists_decides_word, ?_, by decide +kernel, ?_⟩
  · intro v₁ v₂ t hv₁ hv₂ ht
    have hescape : escapeWord ∉ [v₁, v₂, t] := by simp [hv₁.symm, hv₂.symm, ht.symm]
    obtain ⟨s, hs⟩ : ∃ s, DecidesAdd [] [v₁, v₂, t] s := exists_decidesAdd hescape (by simp) (by simp)
    exact ⟨s, decides_add hs⟩
  · intro vs hlen hvs
    have hhelp : ∀ w, w = bytesOf "-h" ∨ w = bytesOf "--help" → DecidesAdd [] (vs ++ [w]) (.help .add) :=
      fun w => decidesAdd_help hvs (by simpa using hlen) rfl
    exact ⟨decides_add (hhelp _ (.inr rfl)), decides_add (hhelp _ (.inl rfl))⟩

/-- A misspelt flag in front, a third point that a hyphen begins, and help behind a point. -/
theorem read_decided_samples :
    (bytesOf "--hel" ≠ bytesOf "add" ∧ bytesOf "--hel" ≠ bytesOf "help" ∧ bytesOf "--hel" ≠ escapeWord ∧
      ∃ s, Decides [bytesOf "--hel"] s) ∧
    (bytesOf "-V" ≠ escapeWord ∧ bytesOf "3,4" ≠ escapeWord ∧ bytesOf "-h5" ≠ escapeWord ∧
      ∃ s, Decides [bytesOf "add", bytesOf "-V", bytesOf "3,4", bytesOf "-h5"] s) ∧
    ((∀ v ∈ [bytesOf "-1,5"], IsValue v) ∧
      read ([bytesOf "add", bytesOf "-1,5", bytesOf "--help"] ++ [escapeWord, [0xFF]]) = .error (.help .add)) := by
  have hvalue : ∀ v ∈ [bytesOf "-1,5"], IsValue v := by
    intro v hv
    rw [List.mem_singleton.1 hv]
    exact ⟨⟨_, rfl⟩, by decide, by decide, by decide⟩
  obtain ⟨hfirst, hthird, -, hhelp⟩ := read_decided
  exact ⟨⟨by decide, by decide, by decide, hfirst _ (by decide) (by decide) (by decide)⟩,
    ⟨by decide, by decide, by decide, hthird _ _ _ (by decide) (by decide) (by decide)⟩,
    hvalue, (hhelp _ (by decide) hvalue).1 _⟩

end PointSum.CommandLine
