import PointSum.Proofs.Number.Word

/-!
# Why a text is no numeral

The reader of a format goes through the digits from left to right and stops at the first character that is no digit
or at the first digit that leads out of the format, whichever comes first.

* `behindSign f cs`, `beginsBelow f cs` : the text behind a sign that the format allows, and whether this is a minus
  sign; `readInt_eq_readDigits` : the reader looks for digits there;
* `Breaks f negative k cs` : a character that is no digit comes before the format is left;
  `appendDigits_eq_error` : it decides which fault is found;
* `Explains f cs t` : the sentence `t` says why `cs` is no numeral; `explains_message` : so the faults do.
-/

namespace PointSum.Number

set_option autoImplicit false

variable {f : WordFormat} {negative : Bool} {k : Nat} {c : Char} {cs : List Char} {e : ReadFault}

/-- Whether the text begins with a minus sign that the format allows. -/
def beginsBelow (f : WordFormat) (cs : List Char) : Bool :=
  f.signed && cs.head? == some '-'

/-- The text behind a sign that the format allows: a plus sign, or a minus sign if there are negative integers. -/
def behindSign (f : WordFormat) (cs : List Char) : List Char :=
  if cs.head? = some '+' ∨ beginsBelow f cs then cs.tail else cs

/-- A character that is no digit follows digits which, put behind `k` on the given side of zero, denote an integer of
the format. -/
def Breaks (f : WordFormat) (negative : Bool) (k : Nat) (cs : List Char) : Prop :=
  ∃ ds c rest, cs = ds ++ c :: rest ∧ Digits ds ∧ ¬ isDigit c ∧ f.Holds (onSide negative (appendDigits k ds))

/-- Behind the sign there is nothing, or a character that is no digit comes before the format is left. -/
def HasInvalidDigit (f : WordFormat) (cs : List Char) : Prop :=
  behindSign f cs = [] ∨ Breaks f (beginsBelow f cs) 0 (behindSign f cs)

/-- The sentence says why the text, which is no numeral of the format, is none. -/
structure Explains (f : WordFormat) (cs : List Char) (t : String) : Prop where
  empty_iff : t = "cannot parse integer from empty string" ↔ cs = []
  invalid_iff : cs ≠ [] → (t = "invalid digit found in string" ↔ HasInvalidDigit f cs)
  outside : cs ≠ [] → ¬ HasInvalidDigit f cs →
    t = if beginsBelow f cs then "number too small to fit in target type"
      else "number too large to fit in target type"

/-! ## Digits one by one -/

theorem breaks_of_not_isDigit (hk : f.Holds (onSide negative k)) (hc : ¬ isDigit c) (cs : List Char) :
    Breaks f negative k (c :: cs) :=
  ⟨[], c, cs, rfl, Digits.nil, hc, hk⟩

theorem breaks_cons_iff (hc : isDigit c) :
    Breaks f negative k (c :: cs) ↔ Breaks f negative (10 * k + (c.toNat - 0x30)) cs := by
  constructor
  · rintro ⟨ds, b, rest, hcs, hds, hb, hholds⟩
    cases ds with
    | nil =>
      obtain ⟨rfl, -⟩ := List.cons.inj hcs
      exact absurd hc hb
    | cons d ds =>
      obtain ⟨rfl, rfl⟩ := List.cons.inj hcs
      rw [appendDigits_cons] at hholds
      exact ⟨ds, b, rest, rfl, (digits_cons.1 hds).2, hb, hholds⟩
  · rintro ⟨ds, b, rest, rfl, hds, hb, hholds⟩
    rw [← appendDigits_cons] at hholds
    exact ⟨c :: ds, b, rest, rfl, digits_cons.2 ⟨hc, hds⟩, hb, hholds⟩

/-- Further digits do not lead back into a format that was left. -/
theorem not_breaks_of_not_holds (hk : ¬ f.Holds (onSide negative k)) : ¬ Breaks f negative k cs := by
  rintro ⟨ds, c, rest, -, -, -, hholds⟩
  apply hk
  exact hholds.of_le (le_appendDigits k ds)

namespace Word

theorem appendDigits_eq_error (hk : f.Holds (onSide negative k))
    (h : appendDigits f negative (onSide negative k) cs = .error e) :
    e = .invalidDigit ∧ Breaks f negative k cs ∨
      e = (if negative then .tooSmall else .tooLarge) ∧ ¬ Breaks f negative k cs := by
  -- The number read so far is general: a digit goes over to the next one, and the format has held all of them.
  induction cs generalizing k with
  | nil => cases h
  | cons c cs ih =>
    by_cases hc : isDigit c
    · simp only [appendDigits, digit?_of_isDigit hc, onSide_appendDigit] at h
      rw [breaks_cons_iff hc]
      split at h
      · next hnext => exact ih hnext h
      · next hnext =>
        cases h
        exact .inr ⟨rfl, not_breaks_of_not_holds hnext⟩
    · simp only [appendDigits, digit?_of_not_isDigit hc] at h
      cases h
      exact .inl ⟨rfl, breaks_of_not_isDigit hk hc cs⟩

theorem readDigits_eq_error (h : readDigits f negative cs = .error e) :
    e = .invalidDigit ∧ (cs = [] ∨ Breaks f negative 0 cs) ∨
      e = (if negative then .tooSmall else .tooLarge) ∧ ¬ (cs = [] ∨ Breaks f negative 0 cs) := by
  unfold readDigits at h
  split at h
  · next hnil =>
    cases h
    exact .inl ⟨rfl, .inl hnil⟩
  · next hnil =>
    have hzero : onSide negative 0 = 0 := by simp [onSide]
    have hholds : f.Holds (onSide negative 0) := hzero ▸ f.holds_zero
    rw [← hzero] at h
    simpa only [hnil, false_or] using appendDigits_eq_error hholds h

theorem readInt_eq_readDigits (h : cs ≠ []) :
    readInt f cs = readDigits f (beginsBelow f cs) (behindSign f cs) := by
  cases cs with
  | nil => exact absurd rfl h
  | cons c cs =>
    unfold readInt
    by_cases hplus : c = '+'
    · simp [hplus, beginsBelow, behindSign]
    · by_cases hminus : c = '-' ∧ f.signed
      · simp [hminus, beginsBelow, behindSign]
      · have hbelow : beginsBelow f (c :: cs) = false := by
          simp only [beginsBelow, List.head?_cons, Bool.and_eq_false_iff, beq_eq_false_iff_ne, ne_eq, Option.some.injEq]
          rw [not_and_or] at hminus
          simpa [or_comm] using hminus
        simp [hplus, hminus, hbelow, behindSign]

theorem readInt_eq_error (hne : cs ≠ []) (h : readInt f cs = .error e) :
    e = .invalidDigit ∧ HasInvalidDigit f cs ∨
      e = (if beginsBelow f cs then .tooSmall else .tooLarge) ∧ ¬ HasInvalidDigit f cs := by
  rw [readInt_eq_readDigits hne] at h
  exact readDigits_eq_error h

theorem readInt_eq_error_of_read (h : Word.read f cs = .error e) : readInt f cs = .error e := by
  unfold Word.read at h
  cases hr : readInt f cs with
  | error e' =>
    rw [hr] at h
    exact congrArg Except.error (Except.error.inj h)
  | ok n =>
    rw [hr] at h
    cases h

/-- The fault of a text that is no numeral explains it. -/
theorem explains_message (h : Word.read f cs = .error e) : Explains f cs e.message := by
  have hread := readInt_eq_error_of_read h
  by_cases hne : cs = []
  · subst hne
    cases hread
    exact ⟨iff_of_true rfl rfl, fun hnil => absurd rfl hnil, fun hnil => absurd rfl hnil⟩
  · rcases readInt_eq_error hne hread with ⟨rfl, hinvalid⟩ | ⟨rfl, hinvalid⟩
    · exact ⟨iff_of_false (by decide) hne, fun _ => iff_of_true rfl hinvalid, fun _ hnot => absurd hinvalid hnot⟩
    · cases hbelow : beginsBelow f cs with
      | true =>
        refine ⟨iff_of_false (by decide) hne, fun _ => iff_of_false (by decide) hinvalid, fun _ _ => ?_⟩
        rw [hbelow]
        rfl
      | false =>
        refine ⟨iff_of_false (by decide) hne, fun _ => iff_of_false (by decide) hinvalid, fun _ _ => ?_⟩
        rw [hbelow]
        rfl

end Word

end PointSum.Number
