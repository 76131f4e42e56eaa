import Mathlib.Data.List.DropRight
import PointSum.Number.Layout
import PointSum.Proofs.Number.Decimal
import PointSum.Proofs.Number.Literal

/-!
# Reading what a layout writes

* `stripZeros_append` : the zeros taken off digits, put back;
* `read_placeDigits`, `read_scaleDigits` : digits in position, and digits with an exponent, are read as the decimal
  number that they are written for;
* `read_render` : so a decimal number in any layout is read as a decimal number of the same value, if its exponent is
  not written or stays below the bound of the reader.
-/

namespace PointSum.Number

set_option autoImplicit false

variable {cs ds : List Char}

theorem stripZeros_append (ds : List Char) :
    (stripZeros ds).1 ++ List.replicate (stripZeros ds).2 '0' = ds := by
  have happ : (stripZeros ds).1 ++ ds.rtakeWhile (· = '0') = ds := List.rdropWhile_append_rtakeWhile
  have hzero : ∀ c ∈ ds.rtakeWhile (· = '0'), c = '0' := by
    intro c hc
    simpa using List.mem_rtakeWhile_imp hc
  have hlen : (stripZeros ds).2 = (ds.rtakeWhile (· = '0')).length := by
    have := congrArg List.length happ
    rw [List.length_append] at this
    have hdef : (stripZeros ds).2 = ds.length - (stripZeros ds).1.length := rfl
    omega
  rw [hlen, ← List.eq_replicate_of_mem hzero, happ]

theorem length_stripZeros (ds : List Char) : (stripZeros ds).1.length + (stripZeros ds).2 = ds.length := by
  have := congrArg List.length (stripZeros_append ds)
  rwa [List.length_append, List.length_replicate] at this

theorem ofDigits_stripZeros (ds : List Char) :
    ofDigits (stripZeros ds).1 * 10 ^ (stripZeros ds).2 = ofDigits ds := by
  have h := ofDigits_append (stripZeros ds).1 (List.replicate (stripZeros ds).2 '0')
  rw [stripZeros_append, ofDigits_replicate_zero, List.length_replicate, Nat.add_zero] at h
  exact h.symm

theorem digits_stripZeros (h : Digits ds) : Digits (stripZeros ds).1 :=
  (digits_append.1 ((stripZeros_append ds).symm ▸ h)).1

namespace Decimal

/-- A power of ten moves between the digits and the exponent. -/
theorem value_mul_pow (n k : Nat) (e : Int) : (⟨n * 10 ^ k, e⟩ : Decimal).value = (⟨n, e + k⟩ : Decimal).value := by
  simp only [value]
  rw [zpow_add₀ (by norm_num), zpow_natCast]
  push_cast
  ring

/-! ## Exponents -/

/-- The reader appends the digits of an exponent like any others, if the number without the last digit is below its
bound. -/
theorem appendExponent_eq {n : Nat} (h : Number.appendDigits n cs < 10 * 0x10000) :
    appendExponent n cs = Number.appendDigits n cs := by
  induction cs generalizing n with
  | nil => rfl
  | cons c cs ih =>
    rw [appendDigits_cons] at h ⊢
    have hle := le_appendDigits (10 * n + (c.toNat - 0x30)) cs
    have hn : n < 0x10000 := by omega
    rw [← ih h, appendExponent, List.foldl_cons, if_pos hn]
    rfl

theorem scaled_signedDecimal {n : Int} (h : n.natAbs < 0x10000) : Scaled ('e' :: signedDecimal n) n := by
  have hexp : appendExponent 0 (decimal n.natAbs) = n.natAbs := by
    rw [appendExponent_eq, ← ofDigits, ofDigits_decimal]
    rw [← ofDigits, ofDigits_decimal]
    omega
  unfold signedDecimal
  right
  split
  · refine ⟨'e', ['-'], decimal n.natAbs, .inl rfl, by simp, decimal_ne_nil _, digits_decimal _, rfl, ?_⟩
    rw [hexp, onSide]
    simp only [decide_true, if_true]
    omega
  · refine ⟨'e', [], decimal n.natAbs, .inl rfl, by simp, decimal_ne_nil _, digits_decimal _, rfl, ?_⟩
    rw [hexp, onSide]
    simp only [List.nil_eq, reduceCtorEq, decide_false, Bool.false_eq_true, if_false]
    omega

theorem scaled_nil : Scaled [] 0 := .inl ⟨rfl, rfl⟩

/-! ## Layouts -/

theorem read_placeDigits (markWhole : Bool) (hds : Digits ds) (hne : ds ≠ []) (exponent : Int) :
    ∃ d, read (placeDigits markWhole ds exponent) = some d ∧ d.value = (⟨ofDigits ds, exponent⟩ : Decimal).value := by
  unfold placeDigits
  split
  · next hexp =>
    obtain ⟨k, rfl⟩ := Int.eq_ofNat_of_zero_le hexp
    have hzeros : Digits (ds ++ List.replicate k '0') := digits_append.2 ⟨hds, digits_replicate_zero k⟩
    have hne' : ds ++ List.replicate k '0' ≠ [] := by simp [hne]
    have hvalue : ofDigits (ds ++ List.replicate k '0') = ofDigits ds * 10 ^ k := by
      rw [ofDigits_append, ofDigits_replicate_zero, List.length_replicate, Nat.add_zero]
    rw [Int.toNat_natCast]
    cases markWhole with
    | false =>
      have := read_whole hzeros hne' scaled_nil
      refine ⟨_, this, ?_⟩
      rw [hvalue, value_mul_pow, Int.zero_add]
    | true =>
      have := read_pointed hzeros (digits_replicate_zero 1) hne' scaled_nil
      refine ⟨_, this, ?_⟩
      rw [ofDigits_append, ofDigits_replicate_zero, hvalue, Nat.add_zero, List.length_replicate, Nat.mul_assoc,
        ← Nat.pow_add, value_mul_pow]
      congr 2
      omega
  · next hexp =>
    obtain ⟨places, hplaces⟩ := Int.eq_ofNat_of_zero_le (show 0 ≤ -exponent by omega)
    obtain rfl : exponent = -(places : Int) := by omega
    rw [Int.neg_neg, Int.toNat_natCast]
    simp only
    split
    · next hlt =>
      have hsplit : ds.take (ds.length - places) ++ ds.drop (ds.length - places) = ds := List.take_append_drop _ _
      have hboth := digits_append.1 (hsplit.symm ▸ hds)
      have hwhole : ds.take (ds.length - places) ≠ [] := by
        rw [← List.length_pos_iff, List.length_take]
        omega
      have := read_pointed hboth.1 hboth.2 hwhole scaled_nil
      rw [List.append_nil, hsplit, List.length_drop] at this
      rw [List.append_assoc, List.singleton_append]
      refine ⟨_, this, ?_⟩
      congr 2
      omega
    · next hge =>
      have := read_pointed (digits_replicate_zero 1) (digits_append.2 ⟨digits_replicate_zero (places - ds.length), hds⟩)
        (by simp) scaled_nil
      rw [List.append_nil, ofDigits_zeros_append, ofDigits_zeros_append, List.length_append,
        List.length_replicate] at this
      rw [List.append_assoc, show ∀ es, ['0', '.'] ++ es = List.replicate 1 '0' ++ '.' :: es from fun _ => rfl]
      refine ⟨_, this, ?_⟩
      congr 2
      omega

theorem read_scaleDigits (hds : Digits ds) (hne : ds ≠ []) {lead : Int} (hlead : lead.natAbs < 0x10000) :
    ∃ d, read (scaleDigits ds lead) = some d ∧
      d.value = (⟨ofDigits ds, lead + 1 - ds.length⟩ : Decimal).value := by
  unfold scaleDigits
  obtain ⟨c, cs, rfl⟩ := List.exists_cons_of_ne_nil hne
  have hscale := scaled_signedDecimal hlead
  obtain ⟨hc, hcs⟩ := digits_cons.1 hds
  have hone : Digits [c] := digits_cons.2 ⟨hc, Digits.nil⟩
  cases cs with
  | nil =>
    have := read_whole hone (by simp) hscale
    refine ⟨⟨ofDigits [c], lead⟩, this, ?_⟩
    congr 2
    simp
  | cons e es =>
    have := read_pointed hone hcs (by simp) hscale
    refine ⟨⟨ofDigits ([c] ++ (e :: es)), lead - (e :: es).length⟩, by simpa using this, ?_⟩
    congr 2
    simp only [List.length_cons]
    push_cast
    omega

/-- The exponent of the leading digit. -/
def lead (d : Decimal) : Int := d.exponent + (decimal d.digits).length - 1

theorem render_zero (l : Layout) {d : Decimal} (h : d.digits = 0) :
    d.render l = if l.markWhole then ['0', '.', '0'] else ['0'] := by
  rw [render, if_pos h]

/-- The layout decides by the exponent of the leading digit, and places the digits without the zeros at their end. -/
theorem render_of_stripZeros (l : Layout) {d : Decimal} (h : d.digits ≠ 0) {zeros : Nat}
    (hstrip : stripZeros (decimal d.digits) = (ds, zeros)) :
    d.render l =
      if l.isPositional d.lead then placeDigits l.markWhole ds (d.exponent + zeros) else scaleDigits ds d.lead := by
  have hlen := length_stripZeros (decimal d.digits)
  rw [hstrip] at hlen
  have hlead : d.exponent + zeros + ds.length - 1 = d.lead := by
    unfold lead
    simp only at hlen
    omega
  rw [render, if_neg h, hstrip]
  simp only [hlead]

/-- A decimal number in any layout is read as a decimal number of the same value. -/
theorem read_render (l : Layout) (d : Decimal) (h : l.isPositional d.lead = false → d.lead.natAbs < 0x10000) :
    ∃ e, read (d.render l) = some e ∧ e.value = d.value := by
  by_cases hzero : d.digits = 0
  · have hvalue : d.value = 0 := by rw [value, hzero, Nat.cast_zero, zero_mul]
    rw [render_zero l hzero, hvalue]
    split
    · exact ⟨⟨0, -1⟩, by decide, by simp [value]⟩
    · exact ⟨⟨0, 0⟩, by decide, by simp [value]⟩
  · cases hstrip : stripZeros (decimal d.digits) with
    | mk ds zeros =>
      have hlen := length_stripZeros (decimal d.digits)
      have hof := ofDigits_stripZeros (decimal d.digits)
      have hdigits := digits_stripZeros (digits_decimal d.digits)
      rw [hstrip] at hlen hof hdigits
      rw [ofDigits_decimal] at hof
      simp only at hlen hof hdigits
      have hds : ds ≠ [] := by
        rintro rfl
        rw [ofDigits, Number.appendDigits, List.foldl_nil, Nat.zero_mul] at hof
        exact hzero hof.symm
      have hvalue : d.value = (⟨ofDigits ds, d.exponent + zeros⟩ : Decimal).value := by
        rw [← value_mul_pow, hof]
      rw [render_of_stripZeros l hzero hstrip, hvalue]
      by_cases hpos : l.isPositional d.lead
      · rw [if_pos hpos]
        exact read_placeDigits _ hdigits hds _
      · rw [if_neg hpos]
        obtain ⟨e, he, hev⟩ := read_scaleDigits hdigits hds (h (by simpa using hpos))
        refine ⟨e, he, ?_⟩
        rw [hev]
        congr 2
        unfold lead
        omega

end Decimal

end PointSum.Number
