import Mathlib.Data.List.ReduceOption
import PointSum.Proofs.Log.Trap
import PointSum.Proofs.Number.Word

/-!
# Directives as they are written

* `IsLevel cs n` : the text `cs` names the level `n`; `readThreshold_eq_some_iff` : it is read as this level;
* `IsTarget cs` : the word `cs` names targets;
* `Clause` : a directive as it is written, a level, a target, or a target with a level;
* `readDirective_text` : a clause is read as its directive;
* `filterText`, `read_filterText` : clauses with commas between them, where some may be empty, are read as the filter
  of their directives.
-/

namespace PointSum.Log

set_option autoImplicit false

open Number

/-! ## Levels -/

/-- The text names the level: digits that denote a number up to five, or a name in letters of either case. -/
inductive IsLevel : List Char → Threshold → Prop where
  | number {cs : List Char} : cs ≠ [] → Digits cs → ofDigits cs ≤ 5 → IsLevel cs (ofDigits cs)
  | name {cs : List Char} {name : String} {n : Threshold} :
    (name, n) ∈ thresholdNames → cs.map Char.toLower = name.toList → IsLevel cs n

/-- A character of the words in a filter. -/
def isWordChar (c : Char) : Bool :=
  c.isAlphanum || c == '_' || c == ':'

variable {c : Char} {cs word ls : List Char} {n : Threshold}

theorem isWordChar_lt (h : isWordChar c) : c.toNat < 0x80 := by
  simp only [isWordChar, Bool.or_eq_true, beq_iff_eq, isAlphanum_iff, isAlpha_iff, isUpper_iff, isLower_iff] at h
  rcases h with ((h | h) | rfl) | rfl
  · omega
  · have := isDigit_iff.1 (isDigit_of_charIsDigit h)
    omega
  · decide
  · decide

/-- A word can begin a directive, and nothing is trimmed off it. -/
theorem isWordChar_spec (h : isWordChar c) : opensDirective c ∧ Text.isBlank c = false := by
  have hall : ∀ n < 0x80, isWordChar (Char.ofNat n) →
      opensDirective (Char.ofNat n) ∧ Text.isBlank (Char.ofNat n) = false := by decide +kernel
  have := hall c.toNat (isWordChar_lt h)
  rw [Char.ofNat_toNat] at this
  exact this h

theorem not_mem_of_isWordChar (h : ∀ c ∈ cs, isWordChar c) (hc : isWordChar c = false) : c ∉ cs := by
  intro hmem
  rw [h c hmem] at hc
  cases hc

theorem isWordChar_of_isDigit (h : isDigit c) : isWordChar c := by
  simp [isWordChar, isAlphanum_iff, charIsDigit_of_isDigit h]

theorem isAlpha_of_toLower (h : c.toLower.isLower) : c.isAlpha := by
  unfold Char.toLower at h
  split at h
  · next hc => exact isAlpha_iff.2 (.inl (decide_eq_true hc))
  · exact isAlpha_iff.2 (.inr h)

theorem isAlpha_of_name {name : String} (h : (name, n) ∈ thresholdNames) (hcs : cs.map Char.toLower = name.toList)
    (hc : c ∈ cs) : c.isAlpha := by
  have hall : ∀ p ∈ thresholdNames, p.1.toList.all Char.isLower := by decide
  apply isAlpha_of_toLower
  apply List.all_eq_true.1 (hall _ h)
  rw [← hcs]
  exact List.mem_map_of_mem hc

theorem not_isDigit_of_isAlpha (h : c.isAlpha) : ¬ isDigit c ∧ c ≠ '+' := by
  constructor
  · intro hc
    have := isDigit_iff.1 hc
    rw [isAlpha_iff, isUpper_iff, isLower_iff] at h
    omega
  · rintro rfl
    exact absurd h (by decide)

theorem IsLevel.isWordChar (h : IsLevel cs n) (hc : c ∈ cs) : isWordChar c := by
  cases h with
  | number hne hds hle => exact isWordChar_of_isDigit (hds c hc)
  | name hmem hname => simp [Log.isWordChar, isAlphanum_iff, isAlpha_of_name hmem hname hc]

theorem IsLevel.ne_nil (h : IsLevel cs n) : cs ≠ [] := by
  cases h with
  | number hne => exact hne
  | name hmem hname =>
    rintro rfl
    have hall : ∀ p ∈ thresholdNames, p.1.toList ≠ [] := by decide
    exact hall _ hmem hname.symm

theorem readThreshold_of_number {k : Int} (h : Word.readInt .nat64 cs = .ok k) (hk : k ≤ 5) :
    readThreshold cs = some k.toNat := by
  simp only [readThreshold, h, if_pos hk]

theorem readThreshold_of_not_number (h : ∀ k, Word.readInt .nat64 cs = .ok k → ¬ k ≤ 5) :
    readThreshold cs = (thresholdNames.find? fun p => p.1.toList = cs.map Char.toLower).map (·.2) := by
  cases hk : Word.readInt .nat64 cs with
  | ok k => simp only [readThreshold, hk, if_neg (h k hk)]
  | error e => simp only [readThreshold, hk]

theorem readThreshold_digits (hne : cs ≠ []) (hcs : Digits cs) (hle : ofDigits cs ≤ 5) :
    readThreshold cs = some (ofDigits cs) := by
  have hholds : WordFormat.nat64.Holds (ofDigits cs) := by
    have hgreatest : WordFormat.nat64.greatest = 2 ^ 64 - 1 := rfl
    have hleast : WordFormat.nat64.least = 0 := rfl
    rw [WordFormat.Holds, hgreatest, hleast]
    omega
  have hread : Word.readInt .nat64 cs = .ok (ofDigits cs : Int) :=
    Word.readInt_eq_ok_iff.2 ⟨cs, hne, hcs, hholds, .inl ⟨.inl rfl, rfl⟩⟩
  rw [readThreshold_of_number hread (by omega), Int.toNat_natCast]

theorem readThreshold_name {name : String} (hmem : (name, n) ∈ thresholdNames)
    (hname : cs.map Char.toLower = name.toList) : readThreshold cs = some n := by
  have hne : cs ≠ [] := (IsLevel.name hmem hname).ne_nil
  have hread : ∀ k, Word.readInt .nat64 cs ≠ .ok k := by
    -- The first character is a letter, where a number has a digit or a plus sign.
    intro k hk
    obtain ⟨ds, hds, hdigits, -, ⟨rfl | rfl, -⟩ | ⟨hsigned, -⟩⟩ := Word.readInt_eq_ok_iff.1 hk
    · obtain ⟨c, hc⟩ := List.exists_mem_of_ne_nil _ hne
      exact (not_isDigit_of_isAlpha (isAlpha_of_name hmem hname hc)).1 (hdigits c hc)
    · exact (not_isDigit_of_isAlpha (isAlpha_of_name hmem hname List.mem_cons_self)).2 rfl
    · cases hsigned
  have hfind : ∀ p ∈ thresholdNames, thresholdNames.find? (fun q => q.1.toList = p.1.toList) = some p := by decide
  rw [readThreshold_of_not_number fun k hk => absurd hk (hread k), hname, hfind _ hmem]
  rfl

/-- A text without a plus sign is read as the level that it names. -/
theorem readThreshold_eq_some_iff (hplus : '+' ∉ cs) : readThreshold cs = some n ↔ IsLevel cs n := by
  constructor
  · intro h
    by_cases hnumber : ∃ k, Word.readInt .nat64 cs = .ok k ∧ k ≤ 5
    · obtain ⟨k, hk, hle⟩ := hnumber
      obtain rfl := Option.some.inj ((readThreshold_of_number hk hle).symm.trans h)
      obtain ⟨ds, hne, hds, -, ⟨rfl | rfl, rfl⟩ | ⟨hsigned, -⟩⟩ := Word.readInt_eq_ok_iff.1 hk
      · exact .number hne hds (by omega)
      · exact absurd List.mem_cons_self hplus
      · cases hsigned
    · rw [readThreshold_of_not_number fun k hk hle => hnumber ⟨k, hk, hle⟩] at h
      obtain ⟨⟨name, m⟩, hfind, rfl⟩ := Option.map_eq_some_iff.1 h
      have hname := List.find?_some hfind
      exact .name (List.mem_of_find?_eq_some hfind) (of_decide_eq_true hname).symm
  · intro h
    cases h with
    | number hne hds hle => exact readThreshold_digits hne hds hle
    | name hmem hname => exact readThreshold_name hmem hname

/-! ## Clauses -/

/-- A word for targets: letters, digits, underscores and colons that name no level. -/
structure IsTarget (cs : List Char) : Prop where
  ne_nil : cs ≠ []
  isWordChar : ∀ c ∈ cs, isWordChar c
  not_isLevel : ∀ n, ¬ IsLevel cs n

theorem not_mem_plus (h : ∀ c ∈ cs, isWordChar c) : '+' ∉ cs :=
  not_mem_of_isWordChar h (by decide)

/-- A word names targets if it is not read as a level. -/
theorem isTarget_iff : IsTarget cs ↔ cs ≠ [] ∧ cs.all isWordChar ∧ readThreshold cs = none := by
  rw [List.all_eq_true]
  constructor
  · rintro ⟨hne, hcs, hlevel⟩
    refine ⟨hne, hcs, Option.eq_none_iff_forall_ne_some.2 fun n hn => ?_⟩
    exact hlevel n ((readThreshold_eq_some_iff (not_mem_plus hcs)).1 hn)
  · rintro ⟨hne, hcs, hread⟩
    refine ⟨hne, hcs, fun n hn => ?_⟩
    rw [(readThreshold_eq_some_iff (not_mem_plus hcs)).2 hn] at hread
    cases hread

instance (cs : List Char) : Decidable (IsTarget cs) := decidable_of_iff _ isTarget_iff.symm

/-- A directive as it is written: a level, a target, or a target with a level. -/
inductive Clause where
  | level (text : List Char) (n : Threshold) (isLevel : IsLevel text n)
  | target (word : List Char) (isTarget : IsTarget word)
  | both (word text : List Char) (n : Threshold) (isTarget : IsTarget word) (isLevel : IsLevel text n)

namespace Clause

/-- The text of a clause. -/
def text : Clause → List Char
  | level text _ _ => text
  | target word _ => word
  | both word text _ _ _ => word ++ '=' :: text

/-- The target that a clause speaks of, if it speaks of one. -/
def target? : Clause → Option (List Char)
  | level _ _ _ => none
  | target word _ => some word
  | both word _ _ _ _ => some word

/-- The level of a clause. A target without a level has the most detailed one. -/
def threshold : Clause → Threshold
  | level _ n _ => n
  | target _ _ => traceThreshold
  | both _ _ n _ _ => n

/-- What a clause means. -/
def directive (d : Clause) : Directive := ⟨d.target?, none, d.threshold⟩

end Clause

/-! ## Reading clauses -/

/-- The signs of a level and a scope are not in words. -/
theorem isWordChar_front (h : isWordChar c) : decide (c ≠ '=' ∧ c ≠ '[') = true := by
  apply decide_eq_true
  constructor <;>
  · rintro rfl
    exact absurd h (by decide)

theorem opens_of_isWordChar (hne : cs ≠ []) (h : ∀ c ∈ cs, isWordChar c) (ds : List Char) :
    (cs ++ ds).head?.any opensDirective = true := by
  obtain ⟨c, rest, rfl⟩ := List.exists_cons_of_ne_nil hne
  exact (isWordChar_spec (h c List.mem_cons_self)).1

theorem readDirective_word (hne : cs ≠ []) (h : ∀ c ∈ cs, isWordChar c) :
    readDirective cs = .ok (some (.ofWord cs)) := by
  have htrim : Text.trim cs = cs := Text.trim_of_tight (Text.tight_of_forall fun c hc => (isWordChar_spec (h c hc)).2)
  have hopens : cs.head?.any opensDirective = true := by simpa using opens_of_isWordChar hne h []
  have hrest : cs.dropWhile (fun c => c ≠ '=' ∧ c ≠ '[') = [] :=
    List.dropWhile_eq_nil_iff.2 fun c hc => isWordChar_front (h c hc)
  simp only [readDirective, htrim, hopens, hrest]
  rfl

theorem readLevel_append (cs : List Char) (hls : IsLevel ls n) : readLevel (cs ++ ls) cs = .ok n := by
  have hread := (readThreshold_eq_some_iff (not_mem_plus fun c hc => hls.isWordChar hc)).2 hls
  simp only [readLevel, placedRest_append, bind, Except.bind, if_neg hls.ne_nil, hread]
  rfl

theorem readDirective_both (hne : word ≠ []) (h : ∀ c ∈ word, isWordChar c) (hls : IsLevel ls n) :
    readDirective (word ++ '=' :: ls) = .ok (some ⟨some word, none, n⟩) := by
  have htrim : Text.trim (word ++ '=' :: ls) = word ++ '=' :: ls := by
    refine Text.trim_of_tight (Text.tight_of_forall fun c hc => ?_)
    rcases List.mem_append.1 hc with hc | hc
    · exact (isWordChar_spec (h c hc)).2
    · rcases List.mem_cons.1 hc with rfl | hc
      · decide
      · exact (isWordChar_spec (hls.isWordChar hc)).2
  have hopens := opens_of_isWordChar hne h ('=' :: ls)
  have hword : (word ++ '=' :: ls).takeWhile (fun c => c ≠ '=' ∧ c ≠ '[') = word := by
    rw [List.takeWhile_append_of_pos fun c hc => isWordChar_front (h c hc)]
    simp
  have hrest : (word ++ '=' :: ls).dropWhile (fun c => c ≠ '=' ∧ c ≠ '[') = '=' :: ls := by
    rw [List.dropWhile_append_of_pos fun c hc => isWordChar_front (h c hc)]
    simp
  have htarget : placed (word ++ '=' :: ls) [] word '=' = .ok word := placed_append [] word ('=' :: ls) '='
  have hlevel : readLevel (word ++ '=' :: ls) (word ++ ['=']) = .ok n := by
    rw [← List.singleton_append, ← List.append_assoc]
    exact readLevel_append _ hls
  simp only [readDirective, htrim, hopens, hrest, hword, htarget, hlevel]
  rfl

/-- A clause is read as what it means. -/
theorem readDirective_text (d : Clause) : readDirective d.text = .ok (some d.directive) := by
  cases d with
  | level ls n hls =>
    have hall : ∀ c ∈ ls, isWordChar c := fun c hc => hls.isWordChar hc
    have hread : readThreshold ls = some n := (readThreshold_eq_some_iff (not_mem_plus hall)).2 hls
    rw [Clause.text, readDirective_word hls.ne_nil hall]
    simp only [Directive.ofWord, hread]
    rfl
  | target word hword =>
    obtain ⟨-, -, hread⟩ := isTarget_iff.1 hword
    rw [Clause.text, readDirective_word hword.ne_nil hword.isWordChar]
    simp only [Directive.ofWord, hread]
    rfl
  | both word ls n hword hls => exact readDirective_both hword.ne_nil hword.isWordChar hls

/-! ## Filters -/

/-- The text of a filter of clauses, where those that are missing are empty directives. -/
def filterText (items : List (Option Clause)) : List Char :=
  [','].intercalate (items.map fun item => (item.map Clause.text).getD [])

theorem text_ne_nil (d : Clause) : d.text ≠ [] := by
  cases d with
  | level ls n hls => exact hls.ne_nil
  | target word hword => exact hword.ne_nil
  | both word ls n hword hls => simp [Clause.text]

theorem comma_not_mem_text (d : Clause) : ',' ∉ d.text := by
  have hword : ∀ cs : List Char, (∀ c ∈ cs, isWordChar c) → ',' ∉ cs :=
    fun cs hcs => not_mem_of_isWordChar hcs (by decide)
  cases d with
  | level ls n hls => exact hword ls fun c hc => hls.isWordChar hc
  | target word h => exact hword word h.isWordChar
  | both word ls n h hls =>
    have hlevel := hword ls fun c hc => hls.isWordChar hc
    simp [Clause.text, hword word h.isWordChar, hlevel]

theorem directiveTexts_filterText (items : List (Option Clause)) :
    directiveTexts (filterText items) = items.reduceOption.map Clause.text := by
  have hcomma : ∀ cs ∈ items.map (fun item => (item.map Clause.text).getD []), ',' ∉ cs := by
    intro cs hcs
    obtain ⟨item, -, rfl⟩ := List.mem_map.1 hcs
    cases item with
    | none => simp
    | some d => exact comma_not_mem_text d
  have htexts : (items.map fun item => (item.map Clause.text).getD []).filter (· ≠ []) =
      items.reduceOption.map Clause.text := by
    induction items with
    | nil => rfl
    | cons item items ih =>
      have ih := ih fun cs hcs => hcomma cs (List.mem_cons_of_mem _ hcs)
      cases item with
      | none => simpa using ih
      | some d => simpa [text_ne_nil d] using ih
  by_cases hne : items = []
  · subst hne
    rfl
  · rw [directiveTexts, filterText, List.splitOn_intercalate ',' hcomma (by simpa using hne)]
    exact htexts

/-- Clauses are read as what they mean. A filter without any shows errors. -/
theorem read_filterText (items : List (Option Clause)) : Filter.read (filterText items) =
    .ok (if items.reduceOption = [] then [⟨none, none, Level.error.rank⟩]
      else items.reduceOption.map Clause.directive) := by
  have hmap : ∀ ds : List Clause, (ds.map Clause.text).mapM readDirective =
      .ok (ds.map fun d => some d.directive) := by
    intro ds
    induction ds with
    | nil => rfl
    | cons d ds ih =>
      rw [List.map_cons, List.mapM_cons, readDirective_text, ih]
      rfl
  have hids : ∀ ds : List Clause, (ds.map fun d => some d.directive).filterMap id = ds.map Clause.directive := by
    intro ds
    simp [List.filterMap_map]
  rw [Filter.read, directiveTexts_filterText]
  cases items.reduceOption with
  | nil => rfl
  | cons d ds =>
    simp only [List.map_cons]
    rw [← List.map_cons, hmap, Except.map, hids]
    rfl

end PointSum.Log
