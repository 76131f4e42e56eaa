import PointSum.Number.Word
import PointSum.Proofs.Number.Digits

/-!
# Words and the integers they stand for

* `holds_toInt`, `toInt_ofInt`, `toInt_inj` : the words of a format are the integers it holds;
* `add?_eq_some_iff`, `add?_eq_none_iff` : checked addition is addition of integers; `add_eq_ok_iff` : and so is that of
  the bits, where it does not trap;
* `Numeral f cs n` : `cs` is a decimal numeral of the format for the integer `n`; `read_eq_ok_iff` : the reader
  accepts the numerals and nothing else, `numeral_text` : and the text of a word is one for it;
* `numeral_sign_iff`, `numeral_zeros_iff` : what a sign does to digits, and that zeros in front of them do nothing.
-/

namespace PointSum.Number

set_option autoImplicit false

namespace WordFormat

variable (f : WordFormat)

theorem least_nonpos : f.least ≤ 0 := by
  unfold least
  split
  · have : (0 : Int) < 2 ^ (f.width - 1) := Int.pow_pos (by decide)
    omega
  · exact le_rfl

theorem greatest_nonneg : 0 ≤ f.greatest := by
  have h₁ : (0 : Int) < 2 ^ (f.width - 1) := Int.pow_pos (by decide)
  have h₂ : (0 : Int) < 2 ^ f.width := Int.pow_pos (by decide)
  unfold greatest
  split <;> omega

@[simp] theorem holds_zero : f.Holds 0 := ⟨f.least_nonpos, f.greatest_nonneg⟩

end WordFormat

namespace Word

variable {f : WordFormat}

/-! ## The integer of a word -/

@[simp] theorem holds_toInt (a : Word f) : f.Holds a.toInt := by
  unfold toInt WordFormat.Holds WordFormat.least WordFormat.greatest
  cases f.signed with
  | true =>
    simp only [if_true]
    have := BitVec.le_toInt a.bits
    have := BitVec.toInt_lt (x := a.bits)
    omega
  | false =>
    simp only [Bool.false_eq_true, if_false]
    have h : (a.bits.toNat : Int) < (2 ^ f.width : Nat) := Int.ofNat_lt.2 a.bits.isLt
    push_cast at h
    omega

theorem toInt_ofInt {n : Int} (h : f.Holds n) : (⟨BitVec.ofInt f.width n⟩ : Word f).toInt = n := by
  unfold WordFormat.Holds WordFormat.least WordFormat.greatest at h
  unfold toInt
  cases hs : f.signed with
  | true =>
    simp only [hs, if_true] at h ⊢
    exact BitVec.toInt_ofInt_eq_self f.width_pos h.1 (by omega)
  | false =>
    simp only [hs, Bool.false_eq_true, if_false] at h ⊢
    rw [BitVec.toNat_ofInt, Int.emod_eq_of_lt h.1 (by push_cast; omega), Int.toNat_of_nonneg h.1]

@[simp] theorem toInt_inj {a b : Word f} : a.toInt = b.toInt ↔ a = b := by
  constructor
  · intro h
    obtain ⟨x⟩ := a
    obtain ⟨y⟩ := b
    congr 1
    unfold toInt at h
    cases hs : f.signed with
    | true => simpa only [hs, if_true, BitVec.toInt_inj] using h
    | false =>
      simp only [hs, Bool.false_eq_true, if_false] at h
      exact BitVec.eq_of_toNat_eq (Int.ofNat.inj h)
  · rintro rfl
    rfl

@[simp] theorem ofInt_toInt (a : Word f) : (⟨BitVec.ofInt f.width a.toInt⟩ : Word f) = a :=
  toInt_inj.1 (toInt_ofInt a.holds_toInt)

@[simp] theorem toInt_zero : (zero : Word f).toInt = 0 := by
  unfold zero toInt
  split
  · exact BitVec.toInt_zero
  · rfl

theorem ofInt?_eq_some_iff {n : Int} {a : Word f} : ofInt? f n = some a ↔ a.toInt = n := by
  unfold ofInt?
  constructor
  · intro h
    split at h
    · next hn => rw [← Option.some.inj h, toInt_ofInt hn]
    · cases h
  · rintro rfl
    rw [if_pos a.holds_toInt, ofInt_toInt]

theorem ofInt?_eq_none_iff {n : Int} : ofInt? f n = none ↔ ¬ f.Holds n := by
  unfold ofInt?
  split <;> simp_all

theorem add?_eq_some_iff {a b c : Word f} : a.add? b = some c ↔ c.toInt = a.toInt + b.toInt :=
  ofInt?_eq_some_iff

theorem add?_eq_none_iff {a b : Word f} : a.add? b = none ↔ ¬ f.Holds (a.toInt + b.toInt) :=
  ofInt?_eq_none_iff

/-- The adder reports the sums that the format does not hold. -/
theorem addOverflows_iff {a b : Word f} : a.addOverflows b ↔ ¬ f.Holds (a.toInt + b.toInt) := by
  unfold addOverflows toInt WordFormat.Holds WordFormat.least WordFormat.greatest
  cases f.signed with
  | true =>
    simp only [if_true, BitVec.saddOverflow, Bool.or_eq_true, decide_eq_true_eq]
    omega
  | false =>
    simp only [Bool.false_eq_true, if_false, BitVec.uaddOverflow, decide_eq_true_eq]
    have h : ((2 ^ f.width : Nat) : Int) = 2 ^ f.width := by push_cast; rfl
    omega

/-- Addition of bits is addition of integers where it does not trap. -/
theorem toInt_add {a b : Word f} (h : ¬ a.addOverflows b) :
    (⟨a.bits + b.bits⟩ : Word f).toInt = a.toInt + b.toInt := by
  unfold addOverflows at h
  unfold toInt
  cases hs : f.signed with
  | true =>
    simp only [hs, if_true] at h ⊢
    exact BitVec.toInt_add_of_not_saddOverflow h
  | false =>
    simp only [hs, Bool.false_eq_true, if_false] at h ⊢
    rw [BitVec.toNat_add_of_not_uaddOverflow h]
    push_cast
    rfl

/-- The addition that traps has the sums of the checked one. -/
theorem add_eq_ok_iff {a b c : Word f} : a.add b = .ok c ↔ c.toInt = a.toInt + b.toInt := by
  unfold add
  split
  · next h =>
    have hholds := addOverflows_iff.1 h
    simp only [reduceCtorEq, false_iff]
    intro hc
    exact hholds (hc ▸ c.holds_toInt)
  · next h =>
    rw [Except.ok.injEq, ← toInt_inj, toInt_add h, eq_comm]

theorem ofList_text (a : Word f) : String.ofList a.text = toString a.toInt :=
  ofList_signedDecimal a.toInt

end Word

/-! ## Numerals -/

/-- The integer of the magnitude on the given side of zero. -/
def onSide (negative : Bool) (n : Nat) : Int :=
  if negative then -(n : Int) else n

/-- The text is a decimal numeral for the integer: digits after a plus sign, after a minus sign if the format has
negative integers, or after no sign, for an integer that the format holds. -/
def Numeral (f : WordFormat) (cs : List Char) (n : Int) : Prop :=
  ∃ ds, ds ≠ [] ∧ Digits ds ∧ f.Holds n ∧
    ((cs = ds ∨ cs = '+' :: ds) ∧ n = ofDigits ds ∨ f.signed ∧ cs = '-' :: ds ∧ n = -(ofDigits ds : Int))

/-- A format that holds an integer holds what lies between it and zero. -/
theorem WordFormat.Holds.of_le {f : WordFormat} {negative : Bool} {m n : Nat} (h : f.Holds (onSide negative n))
    (hmn : m ≤ n) : f.Holds (onSide negative m) := by
  have := f.least_nonpos
  have := f.greatest_nonneg
  unfold onSide at h ⊢
  unfold Holds at h ⊢
  split at h <;> split <;> first | contradiction | omega

theorem Numeral.ne_nil {f : WordFormat} {cs : List Char} {n : Int} (h : Numeral f cs n) : cs ≠ [] := by
  rintro rfl
  obtain ⟨ds, hne, -, -, ⟨h | h, -⟩ | ⟨-, h, -⟩⟩ := h
  · exact hne h.symm
  · cases h
  · cases h

theorem Numeral.holds {f : WordFormat} {cs : List Char} {n : Int} (h : Numeral f cs n) : f.Holds n := by
  obtain ⟨-, -, -, hn, -⟩ := h
  exact hn

theorem Numeral.isDigit_or_sign {f : WordFormat} {cs : List Char} {n : Int} (h : Numeral f cs n) {c : Char}
    (hc : c ∈ cs) : isDigit c ∨ c = '+' ∨ c = '-' := by
  obtain ⟨ds, -, hds, -, ⟨rfl | rfl, -⟩ | ⟨-, rfl, -⟩⟩ := h
  · exact .inl (hds c hc)
  · rcases List.mem_cons.1 hc with rfl | hc
    · exact .inr (.inl rfl)
    · exact .inl (hds c hc)
  · rcases List.mem_cons.1 hc with rfl | hc
    · exact .inr (.inr rfl)
    · exact .inl (hds c hc)

/-- What a sign in front of digits, or none, makes of the number that they denote. -/
theorem numeral_sign_iff {f : WordFormat} {sign ds : List Char} {n : Int} (hsign : sign ∈ [[], ['+'], ['-']])
    (hne : ds ≠ []) (hds : Digits ds) :
    Numeral f (sign ++ ds) n ↔
      (sign = ['-'] → f.signed) ∧ f.Holds n ∧ n = onSide (sign = ['-']) (ofDigits ds) := by
  have hplus : ∀ es, ds ≠ '+' :: es := by
    rintro es rfl
    exact absurd (digits_cons.1 hds).1 (by decide)
  have hminus : ∀ es, ds ≠ '-' :: es := by
    rintro es rfl
    exact absurd (digits_cons.1 hds).1 (by decide)
  simp only [List.mem_cons, List.not_mem_nil, or_false] at hsign
  constructor
  · rintro ⟨es, -, hes, hn, ⟨h | h, rfl⟩ | ⟨hf, h, rfl⟩⟩
    · rcases hsign with rfl | rfl | rfl
      · exact ⟨by simp, hn, by rw [← h]; rfl⟩
      · exact absurd (digits_cons.1 (h ▸ hes)).1 (by decide)
      · exact absurd (digits_cons.1 (h ▸ hes)).1 (by decide)
    · rcases hsign with rfl | rfl | rfl
      · exact absurd h (hplus es)
      · obtain rfl : ds = es := (List.cons.inj h).2
        exact ⟨by simp, hn, rfl⟩
      · cases h
    · rcases hsign with rfl | rfl | rfl
      · exact absurd h (hminus es)
      · cases h
      · obtain rfl : ds = es := (List.cons.inj h).2
        exact ⟨fun _ => hf, hn, rfl⟩
  · rintro ⟨hf, hn, hv⟩
    refine ⟨ds, hne, hds, hn, ?_⟩
    rcases hsign with rfl | rfl | rfl
    · exact .inl ⟨.inl rfl, hv⟩
    · exact .inl ⟨.inr rfl, hv⟩
    · exact .inr ⟨hf rfl, rfl, hv⟩

/-- Zeros behind the sign do not change what a numeral denotes. -/
theorem numeral_zeros_iff {f : WordFormat} {sign ds : List Char} {n : Int} (hsign : sign ∈ [[], ['+'], ['-']])
    (hne : ds ≠ []) (hds : Digits ds) (k : Nat) :
    Numeral f (sign ++ (List.replicate k '0' ++ ds)) n ↔ Numeral f (sign ++ ds) n := by
  rw [numeral_sign_iff hsign hne hds, numeral_sign_iff hsign (by simp [hne])
    (digits_append.2 ⟨digits_replicate_zero k, hds⟩), ofDigits_zeros_append]

namespace Word

variable {f : WordFormat} {negative : Bool} {m n : Int} {c : Char} {cs ds : List Char}

theorem onSide_appendDigit (negative : Bool) (k d : Nat) :
    (if negative then 10 * onSide negative k - d else 10 * onSide negative k + d) = onSide negative (10 * k + d) := by
  unfold onSide
  split <;> push_cast <;> ring

/-- Digits are appended as long as the format holds the result, and then to the last one. -/
theorem appendDigits_eq_ok_iff {k : Nat} (hk : f.Holds (onSide negative k)) :
    appendDigits f negative (onSide negative k) cs = .ok m ↔
      Digits cs ∧ f.Holds m ∧ m = onSide negative (Number.appendDigits k cs) := by
  induction cs generalizing k with
  | nil =>
    simp only [appendDigits, Except.ok.injEq, Number.appendDigits, List.foldl_nil]
    constructor
    · rintro rfl
      exact ⟨Digits.nil, hk, rfl⟩
    · rintro ⟨-, -, rfl⟩
      rfl
  | cons c cs ih =>
    rw [appendDigits, digits_cons, appendDigits_cons]
    by_cases hc : isDigit c
    · simp only [digit?_of_isDigit hc, onSide_appendDigit, hc, true_and]
      by_cases hnext : f.Holds (onSide negative (10 * k + (c.toNat - 0x30)))
      · rw [if_pos hnext, ih hnext]
      · rw [if_neg hnext]
        constructor
        · intro h
          cases h
        · rintro ⟨-, hm, rfl⟩
          exact absurd (hm.of_le (le_appendDigits _ cs)) hnext
    · simp [digit?_of_not_isDigit hc, hc]

theorem readDigits_eq_ok_iff : readDigits f negative ds = .ok n ↔
    ds ≠ [] ∧ Digits ds ∧ f.Holds n ∧ n = onSide negative (ofDigits ds) := by
  have hzero : onSide negative 0 = 0 := by simp [onSide]
  unfold readDigits
  by_cases h : ds = []
  · simp [h]
  · have hk : f.Holds (onSide negative 0) := hzero ▸ f.holds_zero
    have : appendDigits f negative (onSide negative 0) ds = .ok n ↔ _ := appendDigits_eq_ok_iff hk
    rw [hzero] at this
    rw [if_neg h, this]
    simp [h, ofDigits]

theorem numeral_plus_iff : Numeral f ('+' :: ds) n ↔ readDigits f false ds = .ok n := by
  rw [readDigits_eq_ok_iff]
  constructor
  · rintro ⟨es, hne, hes, hn, ⟨h | h, rfl⟩ | ⟨-, h, -⟩⟩
    · have := digits_cons.1 (h ▸ hes)
      exact absurd this.1 (by decide)
    · obtain rfl := (List.cons.inj h).2
      exact ⟨hne, hes, hn, rfl⟩
    · cases h
  · rintro ⟨hne, hes, hn, rfl⟩
    exact ⟨ds, hne, hes, hn, .inl ⟨.inr rfl, rfl⟩⟩

theorem numeral_minus_iff (hf : f.signed) : Numeral f ('-' :: ds) n ↔ readDigits f true ds = .ok n := by
  rw [readDigits_eq_ok_iff]
  constructor
  · rintro ⟨es, hne, hes, hn, ⟨h | h, rfl⟩ | ⟨-, h, rfl⟩⟩
    · have := digits_cons.1 (h ▸ hes)
      exact absurd this.1 (by decide)
    · cases h
    · obtain rfl := (List.cons.inj h).2
      exact ⟨hne, hes, hn, rfl⟩
  · rintro ⟨hne, hes, hn, rfl⟩
    exact ⟨ds, hne, hes, hn, .inr ⟨hf, rfl, rfl⟩⟩

theorem numeral_bare_iff (hplus : c ≠ '+') (hminus : ¬ (c = '-' ∧ f.signed)) :
    Numeral f (c :: ds) n ↔ readDigits f false (c :: ds) = .ok n := by
  rw [readDigits_eq_ok_iff]
  constructor
  · rintro ⟨es, hne, hes, hn, ⟨rfl | h, rfl⟩ | ⟨hf, h, -⟩⟩
    · exact ⟨hne, hes, hn, rfl⟩
    · exact absurd (List.cons.inj h).1 hplus
    · exact absurd ⟨(List.cons.inj h).1, hf⟩ hminus
  · rintro ⟨hne, hes, hn, rfl⟩
    exact ⟨c :: ds, hne, hes, hn, .inl ⟨.inl rfl, rfl⟩⟩

/-- The reader of integers accepts the numerals of the format and nothing else. -/
theorem readInt_eq_ok_iff : readInt f cs = .ok n ↔ Numeral f cs n := by
  cases cs with
  | nil =>
    constructor
    · intro h
      cases h
    · intro h
      exact absurd rfl h.ne_nil
  | cons c ds =>
    rw [readInt]
    by_cases hplus : c = '+'
    · rw [if_pos hplus, hplus, numeral_plus_iff]
    · rw [if_neg hplus]
      by_cases hminus : c = '-' ∧ f.signed
      · rw [if_pos hminus, hminus.1, numeral_minus_iff hminus.2]
      · rw [if_neg hminus, numeral_bare_iff hplus hminus]

theorem read_eq_ok_iff {a : Word f} : read f cs = .ok a ↔ Numeral f cs a.toInt := by
  rw [read, ← readInt_eq_ok_iff]
  constructor
  · intro h
    cases hr : readInt f cs with
    | error e => rw [hr] at h; cases h
    | ok n =>
      rw [hr] at h
      obtain ⟨-, -, -, hn, -⟩ := readInt_eq_ok_iff.1 hr
      obtain rfl := Except.ok.inj h
      rw [toInt_ofInt hn]
  · intro h
    rw [h, Except.map, ofInt_toInt]

/-- The text of a word is a numeral for it. -/
theorem numeral_text (a : Word f) : Numeral f a.text a.toInt := by
  have hholds := a.holds_toInt
  refine ⟨decimal a.toInt.natAbs, decimal_ne_nil _, digits_decimal _, hholds, ?_⟩
  rw [text, signedDecimal, ofDigits_decimal]
  split
  · next hneg =>
    right
    refine ⟨?_, rfl, by omega⟩
    by_contra hf
    have : f.least = 0 := if_neg hf
    have := hholds.1
    omega
  · exact .inl ⟨.inl rfl, by omega⟩

end Word

end PointSum.Number
