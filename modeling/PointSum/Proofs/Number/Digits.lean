import Mathlib.Tactic.Ring
import PointSum.Number.Basic

/-!
# Digits and the numbers they denote

* `Digits cs` : every character of `cs` is a digit; `isUpper_iff`, `isLower_iff` : letters by their code points;
* `appendDigits_eq`, `ofDigits_append` : the positional value of digits that follow others;
* `ofDigits_decimal` : the digits of a number denote it, `digits_decimal` : and are digits;
* `eq_replicate_of_ofDigits_eq_zero` : zero is denoted by zeros only; `ofDigits_lt` : a bound by the number of digits;
* `decimal_mul_pow` : a power of ten adds zeros;
* `lt_decimal_length`, `pow_le_of_lt_decimal_length` : how many digits a number has;
* `ofList_signedDecimal` : the text of an integer.
-/

namespace PointSum.Number

set_option autoImplicit false

/-- Every character is a digit. -/
def Digits (cs : List Char) : Prop := ∀ c ∈ cs, isDigit c

variable {c : Char} {cs ds : List Char}

theorem isDigit_iff : isDigit c ↔ 0x30 ≤ c.toNat ∧ c.toNat ≤ 0x39 := by
  simp [isDigit]

theorem isDigit_of_charIsDigit (h : c.isDigit) : isDigit c := by
  simp only [Char.isDigit, Bool.and_eq_true, decide_eq_true_eq, ge_iff_le, UInt32.le_iff_toNat_le] at h
  exact isDigit_iff.2 h

theorem charIsDigit_of_isDigit (h : isDigit c) : c.isDigit := by
  simp only [Char.isDigit, Bool.and_eq_true, decide_eq_true_eq, ge_iff_le, UInt32.le_iff_toNat_le]
  exact isDigit_iff.1 h

theorem isUpper_iff : c.isUpper ↔ 0x41 ≤ c.toNat ∧ c.toNat ≤ 0x5A :=
  decide_eq_true_iff.trans (and_congr UInt32.le_iff_toNat_le UInt32.le_iff_toNat_le)

theorem isLower_iff : c.isLower ↔ 0x61 ≤ c.toNat ∧ c.toNat ≤ 0x7A := by
  change (decide ('a'.val ≤ c.val) && decide (c.val ≤ 'z'.val)) = true ↔ _
  rw [Bool.and_eq_true, decide_eq_true_iff, decide_eq_true_iff]
  exact and_congr UInt32.le_iff_toNat_le UInt32.le_iff_toNat_le

theorem isAlpha_iff : c.isAlpha ↔ c.isUpper ∨ c.isLower :=
  Bool.or_eq_true_iff

theorem isAlphanum_iff : c.isAlphanum ↔ c.isAlpha ∨ c.isDigit :=
  Bool.or_eq_true_iff

@[simp] theorem Digits.nil : Digits [] := fun _ h => by simp at h

@[simp] theorem digits_cons : Digits (c :: cs) ↔ isDigit c ∧ Digits cs := by
  simp [Digits]

@[simp] theorem digits_append : Digits (cs ++ ds) ↔ Digits cs ∧ Digits ds := by
  simp [Digits, or_imp, forall_and]

@[simp] theorem digits_replicate_zero (k : Nat) : Digits (List.replicate k '0') := by
  intro c hc
  rw [List.eq_of_mem_replicate hc]
  decide

theorem digit?_of_isDigit (h : isDigit c) : digit? c = some (c.toNat - 0x30) := by
  simp [digit?, h]

theorem digit?_of_not_isDigit (h : ¬ isDigit c) : digit? c = none := by
  simp [digit?, h]

/-! ## Positional values -/

theorem appendDigits_cons (n : Nat) (c : Char) (cs : List Char) :
    appendDigits n (c :: cs) = appendDigits (10 * n + (c.toNat - 0x30)) cs := by
  rw [appendDigits, List.foldl_cons, appendDigits]

theorem appendDigits_append (n : Nat) (cs ds : List Char) :
    appendDigits n (cs ++ ds) = appendDigits (appendDigits n cs) ds :=
  List.foldl_append

theorem appendDigits_eq (n : Nat) (cs : List Char) :
    appendDigits n cs = n * 10 ^ cs.length + ofDigits cs := by
  induction cs generalizing n with
  | nil => simp [appendDigits, ofDigits]
  | cons c cs ih =>
    rw [ofDigits, appendDigits_cons, appendDigits_cons, ih, ih (10 * 0 + _), List.length_cons, pow_succ]
    ring

/-- Further digits do not make a number smaller. -/
theorem le_appendDigits (n : Nat) (cs : List Char) : n ≤ appendDigits n cs := by
  rw [appendDigits_eq]
  exact Nat.le_add_right_of_le (Nat.le_mul_of_pos_right _ (Nat.pow_pos (by decide)))

theorem ofDigits_append (cs ds : List Char) :
    ofDigits (cs ++ ds) = ofDigits cs * 10 ^ ds.length + ofDigits ds := by
  rw [ofDigits, appendDigits_append, appendDigits_eq]
  rfl

@[simp] theorem ofDigits_replicate_zero (k : Nat) : ofDigits (List.replicate k '0') = 0 := by
  induction k with
  | zero => rfl
  | succ k ih =>
    rw [List.replicate_succ, ofDigits, appendDigits_cons]
    exact ih

/-- Zeros in front of digits do not count. -/
@[simp] theorem ofDigits_zeros_append (k : Nat) (ds : List Char) :
    ofDigits (List.replicate k '0' ++ ds) = ofDigits ds := by
  rw [ofDigits_append, ofDigits_replicate_zero, Nat.zero_mul, Nat.zero_add]

theorem eq_replicate_of_ofDigits_eq_zero {cs : List Char} (hcs : Digits cs) (h : ofDigits cs = 0) :
    cs = List.replicate cs.length '0' := by
  induction cs with
  | nil => rfl
  | cons c cs ih =>
    obtain ⟨hc, hcs⟩ := digits_cons.1 hcs
    rw [ofDigits, appendDigits_cons, appendDigits_eq] at h
    have hrest : ofDigits cs = 0 := by omega
    have hlead : (10 * 0 + (c.toNat - 0x30)) * 10 ^ cs.length = 0 := by omega
    have hzero : c.toNat - 0x30 = 0 := by
      have := (Nat.mul_eq_zero.1 hlead).resolve_right (Nat.pow_pos (by decide)).ne'
      omega
    have hc : c = '0' := by
      rw [isDigit_iff] at hc
      exact Char.toNat_inj.1 (show c.toNat = 0x30 by omega)
    rw [hc, List.length_cons, List.replicate_succ, ← ih hcs hrest]

theorem ofDigits_lt {cs : List Char} (hcs : Digits cs) : ofDigits cs < 10 ^ cs.length := by
  induction cs with
  | nil => decide
  | cons c cs ih =>
    obtain ⟨hc, hcs⟩ := digits_cons.1 hcs
    have hdigit : c.toNat - 0x30 ≤ 9 := by
      have := isDigit_iff.1 hc
      omega
    have hrest := ih hcs
    rw [ofDigits, appendDigits_cons, appendDigits_eq, List.length_cons, Nat.pow_succ, Nat.mul_zero, Nat.zero_add]
    have := Nat.mul_le_mul_right (10 ^ cs.length) hdigit
    omega

/-! ## The digits of a number -/

@[simp] theorem ofDigits_decimal (n : Nat) : ofDigits (decimal n) = n :=
  Nat.ofDigitChars_ten_toDigits

@[simp] theorem digits_decimal (n : Nat) : Digits (decimal n) :=
  fun _ hc => isDigit_of_charIsDigit (Nat.isDigit_of_mem_toDigits (by decide) (by decide) hc)

@[simp] theorem decimal_ne_nil (n : Nat) : decimal n ≠ [] :=
  Nat.toDigits_ne_nil

theorem decimal_length_pos (n : Nat) : 0 < (decimal n).length :=
  Nat.length_toDigits_pos

theorem lt_pow_decimal_length (n : Nat) : n < 10 ^ (decimal n).length :=
  (Nat.length_toDigits_le_iff (by decide) (decimal_length_pos n)).1 le_rfl

theorem lt_decimal_length {n k : Nat} (h : 10 ^ k ≤ n) : k < (decimal n).length := by
  have hlt := Nat.lt_of_le_of_lt h (lt_pow_decimal_length n)
  exact (Nat.pow_lt_pow_iff_right (by decide)).1 hlt

theorem pow_le_of_lt_decimal_length {n k : Nat} (hn : n ≠ 0) (h : k < (decimal n).length) : 10 ^ k ≤ n := by
  rcases Nat.eq_zero_or_pos k with rfl | hk
  · exact Nat.one_le_iff_ne_zero.2 hn
  · by_contra hlt
    have := (Nat.length_toDigits_le_iff (b := 10) (by decide) hk).2 (Nat.lt_of_not_le hlt)
    exact absurd h (Nat.not_lt.2 this)

theorem decimal_mul_pow {n : Nat} (hn : 0 < n) (k : Nat) :
    decimal (n * 10 ^ k) = decimal n ++ List.replicate k '0' := by
  induction k with
  | zero => simp
  | succ k ih =>
    have hpos : 0 < n * 10 ^ k := Nat.mul_pos hn (Nat.pow_pos (by decide))
    have h := Nat.toDigits_append_toDigits (b := 10) (d := 0) (by decide) hpos (by decide)
    have hz : Nat.toDigits 10 0 = ['0'] := Nat.toDigits_zero 10
    rw [show n * 10 ^ (k + 1) = 10 * (n * 10 ^ k) + 0 by ring, decimal, ← h, hz,
      show Nat.toDigits 10 (n * 10 ^ k) = decimal (n * 10 ^ k) from rfl, ih, List.append_assoc,
      List.replicate_succ']

theorem ofList_signedDecimal (n : Int) : String.ofList (signedDecimal n) = toString n := by
  rw [Int.toString_eq_repr, Int.repr_eq_if, signedDecimal]
  by_cases h : n < 0
  · rw [if_pos h, if_neg (by omega), show n.natAbs = (-n).toNat by omega, Nat.repr_eq_ofList_toDigits,
      ← String.toList_inj]
    simp [decimal]
  · rw [if_neg h, if_pos (by omega), show n.natAbs = n.toNat by omega, Nat.repr_eq_ofList_toDigits, decimal]

end PointSum.Number
