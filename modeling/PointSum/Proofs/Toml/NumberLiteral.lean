import PointSum.Proofs.Number.DecimalLiteral
import PointSum.Proofs.Toml.Lines
import PointSum.Toml.Value

/-!
# Numbers and truth values as they are written

* `Grouped digit cs` : digits with single underscores between them; `IsWhole cs` : decimal ones without a needless zero
  in front;
* `IntegerLiteral`, `FloatLiteral`, `BooleanLiteral` : the grammar of integers, floats and truth values;
* `IsPlain cs` : the text has the characters of words and points; `isPlain`, `not_isMoment` : so have these literals,
  and none of them is a date or a time.
-/

namespace PointSum.Toml

set_option autoImplicit false

open Number (isDigit isDigit_iff charIsDigit_of_isDigit isAlphanum_iff isAlpha_iff isUpper_iff isLower_iff signs)

variable {c : Char} {cs ds sign rest : List Char} {digit : Char → Bool} {base : Nat}

/-! ## The grammar -/

/-- Digits with single underscores between them. -/
inductive Grouped (digit : Char → Bool) : List Char → Prop where
  | single {c : Char} (hc : digit c) : Grouped digit [c]
  | next {c : Char} {cs : List Char} (hc : digit c) (h : Grouped digit cs) : Grouped digit (c :: cs)
  | mark {c : Char} {cs : List Char} (hc : digit c) (h : Grouped digit cs) : Grouped digit (c :: '_' :: cs)

/-- Decimal digits, of which only a single one may begin with a zero. -/
def IsWhole (cs : List Char) : Prop :=
  Grouped isDigit cs ∧ (cs.head? = some '0' → cs = ['0'])

/-- Nothing, or a point and digits. -/
def IsFraction (cs : List Char) : Prop :=
  cs = [] ∨ ∃ ds, cs = '.' :: ds ∧ Grouped isDigit ds

/-- Nothing, or a letter, a sign or none, and digits. -/
def IsExponentPart (cs : List Char) : Prop :=
  cs = [] ∨ ∃ e sign ds, cs = e :: (sign ++ ds) ∧ (e = 'e' ∨ e = 'E') ∧ sign ∈ signs ∧ Grouped isDigit ds

/-- An integer: a decimal one, with a sign or none, or one in another base. -/
inductive IntegerLiteral : List Char → Prop where
  | decimal {sign cs : List Char} (hsign : sign ∈ signs) (h : IsWhole cs) : IntegerLiteral (sign ++ cs)
  | based {base : Nat} {c : Char} {cs : List Char} (hc : base? c = some base) (h : Grouped (isDigitOf base) cs) :
      IntegerLiteral ('0' :: c :: cs)

/-- A float: a number with a fraction, an exponent, or both, an infinity, or a NaN. -/
inductive FloatLiteral : List Char → Prop where
  | number {sign whole fraction exponent : List Char} (hsign : sign ∈ signs) (hwhole : IsWhole whole)
      (hfraction : IsFraction fraction) (hexponent : IsExponentPart exponent) (hne : fraction ++ exponent ≠ []) :
      FloatLiteral (sign ++ (whole ++ (fraction ++ exponent)))
  | special {sign cs : List Char} (hsign : sign ∈ signs) (h : cs = "inf".toList ∨ cs = "nan".toList) :
      FloatLiteral (sign ++ cs)

/-- A truth value. -/
def BooleanLiteral (cs : List Char) : Prop :=
  cs = "true".toList ∨ cs = "false".toList

/-! ## Characters -/

/-- The character can stand in a word or between two of them. -/
def IsPlainChar (c : Char) : Prop :=
  isWordStart c ∨ c = '.'

instance : DecidablePred IsPlainChar := fun c => inferInstanceAs (Decidable (isWordStart c ∨ c = '.'))

/-- The text has the characters of words and points, and begins with a word. -/
structure IsPlain (cs : List Char) : Prop where
  chars : ∀ c ∈ cs, IsPlainChar c
  head : ∃ c ds, cs = c :: ds ∧ isWordStart c

theorem isAlphanum_of_isDigit (h : isDigit c) : c.isAlphanum :=
  isAlphanum_iff.2 (.inr (charIsDigit_of_isDigit h))

theorem isAlphanum_of_isDigitOf (h : isDigitOf base c) : c.isAlphanum := by
  obtain ⟨d, hd⟩ := Option.isSome_iff_exists.1 h
  unfold Number.digitBelow? at hd
  by_cases hdigit : isDigit c
  · exact isAlphanum_of_isDigit hdigit
  · rw [isAlphanum_iff, isAlpha_iff, isUpper_iff, isLower_iff]
    left
    by_cases hsmall : 'a' ≤ c ∧ c ≤ 'f'
    · have hl : 0x61 ≤ c.toNat := UInt32.le_iff_toNat_le.1 hsmall.1
      have hu : c.toNat ≤ 0x66 := UInt32.le_iff_toNat_le.1 hsmall.2
      omega
    · by_cases hcapital : 'A' ≤ c ∧ c ≤ 'F'
      · have hl : 0x41 ≤ c.toNat := UInt32.le_iff_toNat_le.1 hcapital.1
        have hu : c.toNat ≤ 0x46 := UInt32.le_iff_toNat_le.1 hcapital.2
        omega
      · simp [hdigit, hsmall, hcapital] at hd

theorem isWordStart_of_isAlphanum (h : c.isAlphanum) : isWordStart c :=
  Scanner.isWordStart_of_bare (by simp [h])

theorem isWordStart_of_isDigit (h : isDigit c) : isWordStart c := isWordStart_of_isAlphanum (isAlphanum_of_isDigit h)

theorem Grouped.isWordStart (h : Grouped digit cs) (hdigit : ∀ c, digit c → isWordStart c) (hc : c ∈ cs) :
    isWordStart c := by
  have hmark : Toml.isWordStart '_' := by decide
  induction h with
  | single hd =>
    obtain rfl := List.mem_singleton.1 hc
    exact hdigit c hd
  | next hd h ih =>
    rcases List.mem_cons.1 hc with rfl | hc
    · exact hdigit c hd
    · exact ih hc
  | mark hd h ih =>
    rcases List.mem_cons.1 hc with rfl | hc
    · exact hdigit c hd
    · rcases List.mem_cons.1 hc with rfl | hc
      · exact hmark
      · exact ih hc

theorem Grouped.exists_cons (h : Grouped digit cs) : ∃ c ds, cs = c :: ds ∧ digit c := by
  cases h with
  | single hc => exact ⟨_, _, rfl, hc⟩
  | next hc h => exact ⟨_, _, rfl, hc⟩
  | mark hc h => exact ⟨_, _, rfl, hc⟩

theorem sign_cases (hsign : sign ∈ signs) : sign = [] ∨ sign = ['+'] ∨ sign = ['-'] := by
  simpa [signs] using hsign

theorem base?_cases (h : base? c = some base) : c = 'x' ∨ c = 'o' ∨ c = 'b' := by
  unfold base? at h
  split_ifs at h with hx ho hb
  · exact .inl hx
  · exact .inr (.inl ho)
  · exact .inr (.inr hb)

theorem isWordStart_of_sign (hsign : sign ∈ signs) (hc : c ∈ sign) : isWordStart c := by
  rcases sign_cases hsign with rfl | rfl | rfl
  · cases hc
  · obtain rfl := List.mem_singleton.1 hc
    decide
  · obtain rfl := List.mem_singleton.1 hc
    decide

/-- A sign before words leaves words. -/
theorem IsPlain.signed (h : IsPlain cs) (hsign : sign ∈ signs) : IsPlain (sign ++ cs) := by
  constructor
  · intro c hc
    rcases List.mem_append.1 hc with hc | hc
    · exact .inl (isWordStart_of_sign hsign hc)
    · exact h.chars c hc
  · cases sign with
    | nil => exact h.head
    | cons s sign => exact ⟨s, sign ++ cs, rfl, isWordStart_of_sign hsign List.mem_cons_self⟩

theorem IsPlain.append (h : IsPlain cs) (hds : ∀ c ∈ ds, IsPlainChar c) : IsPlain (cs ++ ds) := by
  obtain ⟨c, cs', rfl, hc⟩ := h.head
  refine ⟨fun d hd => ?_, c, cs' ++ ds, rfl, hc⟩
  rcases List.mem_append.1 hd with hd | hd
  · exact h.chars d hd
  · exact hds d hd

theorem Grouped.isPlain (h : Grouped digit cs) (hdigit : ∀ c, digit c → Toml.isWordStart c) : IsPlain cs := by
  obtain ⟨c, ds, rfl, hc⟩ := h.exists_cons
  exact ⟨fun d hd => .inl (h.isWordStart hdigit hd), c, ds, rfl, hdigit c hc⟩

theorem Grouped.isPlain_decimal (h : Grouped isDigit cs) : IsPlain cs := h.isPlain fun _ => isWordStart_of_isDigit

theorem IsFraction.isPlainChar (h : IsFraction cs) : ∀ c ∈ cs, IsPlainChar c := by
  rcases h with rfl | ⟨ds, rfl, hds⟩
  · simp
  · exact List.forall_mem_cons.2 ⟨.inr rfl, hds.isPlain_decimal.chars⟩

theorem IsExponentPart.isPlainChar (h : IsExponentPart cs) : ∀ c ∈ cs, IsPlainChar c := by
  rcases h with rfl | ⟨e, sign, ds, rfl, he, hsign, hds⟩
  · simp
  · refine List.forall_mem_cons.2 ⟨?_, (hds.isPlain_decimal.signed hsign).chars⟩
    rcases he with rfl | rfl <;> decide

theorem isPlain_of_all (h : cs.all isWordStart) (hne : cs ≠ []) : IsPlain cs := by
  obtain ⟨c, ds, rfl⟩ := List.exists_cons_of_ne_nil hne
  have hcs := List.all_eq_true.1 h
  exact ⟨fun d hd => .inl (hcs d hd), c, ds, rfl, hcs c List.mem_cons_self⟩

theorem IntegerLiteral.isPlain (h : IntegerLiteral cs) : IsPlain cs := by
  cases h with
  | decimal hsign h => exact h.1.isPlain_decimal.signed hsign
  | @based base c cs hc h =>
    have hletter : isWordStart c := by
      rcases base?_cases hc with rfl | rfl | rfl <;> decide
    have hzero : isWordStart '0' := by decide
    have hcs := h.isPlain fun _ h => isWordStart_of_isAlphanum (isAlphanum_of_isDigitOf h)
    exact ⟨List.forall_mem_cons.2 ⟨.inl hzero, List.forall_mem_cons.2 ⟨.inl hletter, hcs.chars⟩⟩, _, _, rfl, hzero⟩

theorem FloatLiteral.isPlain (h : FloatLiteral cs) : IsPlain cs := by
  cases h with
  | number hsign hwhole hfraction hexponent hne =>
    refine (hwhole.1.isPlain_decimal.append fun c hc => ?_).signed hsign
    rcases List.mem_append.1 hc with hc | hc
    · exact hfraction.isPlainChar c hc
    · exact hexponent.isPlainChar c hc
  | special hsign h =>
    rcases h with rfl | rfl
    · exact (isPlain_of_all rfl (by decide)).signed hsign
    · exact (isPlain_of_all rfl (by decide)).signed hsign

theorem BooleanLiteral.isPlain (h : BooleanLiteral cs) : IsPlain cs := by
  rcases h with rfl | rfl
  · exact isPlain_of_all rfl (by decide)
  · exact isPlain_of_all rfl (by decide)

/-! ## Dates and times -/

theorem readDigits_eq_some {k m : Nat} (h : readDigits k cs = some (m, rest)) :
    (cs.takeWhile isDigit).length = k ∧ rest = cs.dropWhile isDigit := by
  obtain ⟨hlength, heq⟩ := Option.ite_none_right_eq_some.1 h
  cases heq
  exact ⟨hlength, rfl⟩

theorem head?_of_readChar (h : readChar c cs = some rest) : cs.head? = some c := by
  cases cs with
  | nil => cases h
  | cons d cs => exact congrArg some (Option.ite_none_right_eq_some.1 h).1

/-- A date or a time begins with digits, and behind them stands a hyphen or a colon. -/
theorem isMoment_digits (h : isMoment cs) : cs.takeWhile isDigit ≠ [] ∧
    ((cs.dropWhile isDigit).head? = some '-' ∨ (cs.dropWhile isDigit).head? = some ':') := by
  have hread : ∀ {k m c rest rest'}, readDigits (k + 1) cs = some (m, rest) → readChar c rest = some rest' →
      cs.takeWhile isDigit ≠ [] ∧ (cs.dropWhile isDigit).head? = some c := by
    intro k m c rest rest' hdigits hchar
    obtain ⟨hlength, rfl⟩ := readDigits_eq_some hdigits
    refine ⟨fun hnil => ?_, head?_of_readChar hchar⟩
    rw [hnil] at hlength
    cases hlength
  unfold isMoment at h
  cases hdate : readDate cs with
  | some rest =>
    obtain ⟨⟨year, r₁⟩, hyear, hdate⟩ := Option.bind_eq_some_iff.1 hdate
    obtain ⟨r₂, hchar, -⟩ := Option.bind_eq_some_iff.1 hdate
    exact (hread hyear hchar).imp_right .inl
  | none =>
    rw [hdate] at h
    obtain ⟨r, htime, -⟩ := Option.bind_eq_some_iff.1 (of_decide_eq_true h)
    obtain ⟨⟨hour, r₁⟩, hhour, htime⟩ := Option.bind_eq_some_iff.1 htime
    obtain ⟨r₂, hchar, -⟩ := Option.bind_eq_some_iff.1 htime
    exact (hread hhour hchar).imp_right .inr

theorem not_isMoment_of_head (h : ∀ c ∈ cs.head?, isDigit c = false) : ¬ isMoment cs := by
  intro hmoment
  apply (isMoment_digits hmoment).1
  cases cs with
  | nil => rfl
  | cons c cs => exact List.takeWhile_cons_of_neg (by simp [h c rfl])

theorem not_isMoment_of_dropWhile (h : ∀ c ∈ (cs.dropWhile isDigit).head?, c ≠ '-' ∧ c ≠ ':') : ¬ isMoment cs := by
  intro hmoment
  rcases (isMoment_digits hmoment).2 with hc | hc
  · exact (h _ hc).1 rfl
  · exact (h _ hc).2 rfl

/-- Behind the first digits of a number there is an underscore, or what follows the number. -/
theorem Grouped.dropWhile (h : Grouped isDigit cs) (hrest : ∀ c ∈ rest.head?, isDigit c = false) :
    ((cs ++ rest).dropWhile isDigit).head? = some '_' ∨ (cs ++ rest).dropWhile isDigit = rest := by
  have hdrop : rest.dropWhile isDigit = rest := by
    cases rest with
    | nil => rfl
    | cons c rest => exact List.dropWhile_cons_of_neg (by simp [hrest c rfl])
  induction h with
  | single hc =>
    right
    rw [List.singleton_append, List.dropWhile_cons_of_pos hc, hdrop]
  | next hc h ih =>
    rw [List.cons_append, List.dropWhile_cons_of_pos hc]
    exact ih
  | mark hc h ih =>
    left
    rw [List.cons_append, List.dropWhile_cons_of_pos hc]
    rfl

theorem not_isMoment_number (hsign : sign ∈ signs) (h : Grouped isDigit cs)
    (hrest : ∀ c ∈ rest.head?, isDigit c = false ∧ c ≠ '-' ∧ c ≠ ':') : ¬ isMoment (sign ++ (cs ++ rest)) := by
  rcases sign_cases hsign with rfl | rfl | rfl
  · apply not_isMoment_of_dropWhile
    intro c hc
    rw [List.nil_append] at hc
    rcases h.dropWhile fun c hc => (hrest c hc).1 with hmark | hdrop
    · rw [hmark] at hc
      cases hc
      decide
    · rw [hdrop] at hc
      exact (hrest c hc).2
  · apply not_isMoment_of_head
    rintro c ⟨⟩
    rfl
  · apply not_isMoment_of_head
    rintro c ⟨⟩
    rfl

theorem IntegerLiteral.not_isMoment (h : IntegerLiteral cs) : ¬ isMoment cs := by
  cases h with
  | @decimal sign cs hsign h =>
    rw [← List.append_nil cs]
    exact not_isMoment_number hsign h.1 (by simp)
  | @based base c cs hc h =>
    apply not_isMoment_of_dropWhile
    rcases base?_cases hc with rfl | rfl | rfl
    · rintro d ⟨⟩; decide
    · rintro d ⟨⟩; decide
    · rintro d ⟨⟩; decide

theorem FloatLiteral.not_isMoment (h : FloatLiteral cs) : ¬ isMoment cs := by
  cases h with
  | @number sign whole fraction exponent hsign hwhole hfraction hexponent hne =>
    apply not_isMoment_number hsign hwhole.1
    intro c hc
    rcases hfraction with rfl | ⟨ds, rfl, -⟩
    · rcases hexponent with rfl | ⟨e, s, ds, rfl, he, -⟩
      · cases hc
      · obtain rfl := Option.some.inj hc
        rcases he with rfl | rfl <;> decide
    · obtain rfl := Option.some.inj hc
      decide
  | special hsign h =>
    apply not_isMoment_of_head
    rcases sign_cases hsign with rfl | rfl | rfl
    · rcases h with rfl | rfl
      · rintro c ⟨⟩
        rfl
      · rintro c ⟨⟩
        rfl
    · rintro c ⟨⟩
      rfl
    · rintro c ⟨⟩
      rfl

theorem BooleanLiteral.not_isMoment (h : BooleanLiteral cs) : ¬ isMoment cs := by
  apply not_isMoment_of_head
  rcases h with rfl | rfl
  · rintro c ⟨⟩
    rfl
  · rintro c ⟨⟩
    rfl

end PointSum.Toml
