import PointSum.Proofs.Number.DecimalLiteral

/-!
# Significant digits

* `significantDigits cs` : the digits of a numeral without its exponent and without the zeros at either end;
* `Significant ds` : `ds` are digits without zeros at either end, at least one;
* `significantDigits_render` : every layout of a decimal number shows the same significant digits;
* `DecimalLiteral.IsPlain` : literals in position without superfluous zeros, points and signs; `exists_plain` : the
  digits that are placed without a mark for whole numbers are one.
-/

namespace PointSum.Number

set_option autoImplicit false

variable {c : Char} {cs ds : List Char} {n : Nat}

/-- The digits of a numeral without those of its exponent. -/
def mantissa (cs : List Char) : List Char := (cs.takeWhile (· ≠ 'e')).filter isDigit

/-- The digits of a numeral without those of its exponent and without the zeros at either end. -/
def significantDigits (cs : List Char) : List Char := (stripZeros ((mantissa cs).dropWhile (· = '0'))).1

/-- Digits without zeros at either end, at least one. -/
structure Significant (ds : List Char) : Prop where
  digits : Digits ds
  ne_nil : ds ≠ []
  head : ds.head? ≠ some '0'
  last : ds.getLast? ≠ some '0'

/-! ## Zeros at the ends -/

theorem stripZeros_append_zeros (h : ds.getLast? ≠ some '0') (k : Nat) :
    (stripZeros (ds ++ List.replicate k '0')).1 = ds := by
  have hzeros : ∀ c ∈ List.replicate k '0', decide (c = '0') = true := by simp
  have hself : (ds.reverse.dropWhile (· = '0')) = ds.reverse := by
    rw [← List.head?_reverse] at h
    cases hrev : ds.reverse with
    | nil => rfl
    | cons c cs =>
      have hc : c ≠ '0' := by
        rintro rfl
        exact h (by rw [hrev, List.head?_cons])
      simp [hc]
  rw [stripZeros, List.reverse_append, List.reverse_replicate, List.dropWhile_append_of_pos hzeros, hself,
    List.reverse_reverse]

theorem dropWhile_zeros_append (h : ds.head? ≠ some '0') (k : Nat) :
    (List.replicate k '0' ++ ds).dropWhile (· = '0') = ds := by
  have hzeros : ∀ c ∈ List.replicate k '0', decide (c = '0') = true := by simp
  rw [List.dropWhile_append_of_pos hzeros]
  cases ds with
  | nil => rfl
  | cons c cs =>
    have hc : c ≠ '0' := by
      rintro rfl
      exact h List.head?_cons
    simp [hc]

theorem getLast?_stripZeros (ds : List Char) : (stripZeros ds).1.getLast? ≠ some '0' := by
  have hhead := List.head?_dropWhile_not (· = '0') ds.reverse
  rw [stripZeros, List.getLast?_reverse]
  intro h
  rw [h] at hhead
  simp at hhead

theorem head?_decimal (h : n ≠ 0) : (decimal n).head? ≠ some '0' := by
  intro hhead
  obtain ⟨cs, hcs⟩ := List.head?_eq_some_iff.1 hhead
  have hle : 10 ^ cs.length ≤ n :=
    pow_le_of_lt_decimal_length h (by rw [hcs, List.length_cons]; exact Nat.lt_succ_self _)
  have hdigits := digits_decimal n
  have hn := ofDigits_decimal n
  rw [hcs] at hdigits hn
  have hlt := ofDigits_lt (digits_cons.1 hdigits).2
  -- A zero in front does not count, so there are too few digits for the number.
  have hrest : ofDigits cs = n := hn
  omega

theorem significant_stripZeros (h : n ≠ 0) : Significant (stripZeros (decimal n)).1 where
  digits := digits_stripZeros (digits_decimal n)
  ne_nil hnil := by
    have hof := ofDigits_stripZeros (decimal n)
    rw [hnil, ofDigits_decimal, ofDigits, appendDigits, List.foldl_nil, Nat.zero_mul] at hof
    exact h hof.symm
  head hhead := by
    have happ := stripZeros_append (decimal n)
    refine head?_decimal h ?_
    rw [← happ, List.head?_append, hhead]
    rfl
  last := getLast?_stripZeros _

/-! ## Numerals -/

theorem mantissa_digits (hds : Digits ds) : mantissa (ds ++ cs) = ds ++ mantissa cs := by
  have hne : ∀ c ∈ ds, decide (c ≠ 'e') = true := by
    intro c hc
    have : c ≠ 'e' := by
      rintro rfl
      exact absurd (hds _ hc) (by decide)
    simpa using this
  rw [mantissa, List.takeWhile_append_of_pos hne, List.filter_append, List.filter_eq_self.2 hds]
  rfl

theorem mantissa_of_digits (hds : Digits ds) : mantissa ds = ds := by
  have happ : mantissa (ds ++ []) = ds ++ [] := mantissa_digits hds
  rwa [List.append_nil] at happ

theorem mantissa_cons (hc : isDigit c = false) (he : c ≠ 'e') : mantissa (c :: cs) = mantissa cs := by
  simp [mantissa, hc, he]

theorem mantissa_point : mantissa ('.' :: cs) = mantissa cs := mantissa_cons (by decide) (by decide)

theorem mantissa_minus : mantissa ('-' :: cs) = mantissa cs := mantissa_cons (by decide) (by decide)

theorem mantissa_exponent : mantissa ('e' :: cs) = [] := by simp [mantissa]

theorem significantDigits_of_mantissa (hds : Significant ds) {i k : Nat}
    (h : mantissa cs = List.replicate i '0' ++ (ds ++ List.replicate k '0')) : significantDigits cs = ds := by
  have hhead : (ds ++ List.replicate k '0').head? ≠ some '0' := by
    obtain ⟨d, es, rfl⟩ := List.exists_cons_of_ne_nil hds.ne_nil
    exact hds.head
  rw [significantDigits, h, dropWhile_zeros_append hhead, stripZeros_append_zeros hds.last]

theorem significantDigits_decimal (h : n ≠ 0) : significantDigits (decimal n) = (stripZeros (decimal n)).1 := by
  refine significantDigits_of_mantissa (i := 0) (k := (stripZeros (decimal n)).2) (significant_stripZeros h) ?_
  rw [mantissa_of_digits (digits_decimal n), stripZeros_append]
  rfl

/-! ## Layouts -/

theorem mantissa_placeDigits (hds : Digits ds) (markWhole : Bool) (exponent : Int) :
    ∃ i k, mantissa (placeDigits markWhole ds exponent) = List.replicate i '0' ++ (ds ++ List.replicate k '0') := by
  unfold placeDigits
  split
  · have hzeros : Digits (ds ++ List.replicate exponent.toNat '0') :=
      digits_append.2 ⟨hds, digits_replicate_zero _⟩
    rw [mantissa_digits hzeros]
    cases markWhole with
    | false => exact ⟨0, exponent.toNat, by simp [mantissa]⟩
    | true =>
      have hmark : mantissa ['.', '0'] = List.replicate 1 '0' := by decide
      refine ⟨0, exponent.toNat + 1, ?_⟩
      rw [if_pos rfl, hmark, List.replicate_add, List.append_assoc]
      rfl
  · simp only
    split
    · have htake : Digits (ds.take (ds.length - (-exponent).toNat)) := fun c hc => hds c (List.mem_of_mem_take hc)
      have hdrop : Digits (ds.drop (ds.length - (-exponent).toNat)) := fun c hc => hds c (List.mem_of_mem_drop hc)
      refine ⟨0, 0, ?_⟩
      rw [List.append_assoc, mantissa_digits htake, List.singleton_append, mantissa_point, mantissa_of_digits hdrop,
        List.take_append_drop]
      simp
    · refine ⟨(-exponent).toNat - ds.length + 1, 0, ?_⟩
      have hzero : Digits ['0'] := digits_replicate_zero 1
      rw [List.append_assoc, show ∀ es, ['0', '.'] ++ es = ['0'] ++ '.' :: es from fun _ => rfl, mantissa_digits hzero,
        mantissa_point, mantissa_digits (digits_replicate_zero _), mantissa_of_digits hds, List.replicate_succ]
      simp

theorem mantissa_scaleDigits (hds : Digits ds) (lead : Int) : mantissa (scaleDigits ds lead) = ds := by
  have htake : Digits (ds.take 1) := fun c hc => hds c (List.mem_of_mem_take hc)
  have hdrop : Digits (ds.drop 1) := fun c hc => hds c (List.mem_of_mem_drop hc)
  unfold scaleDigits
  rw [List.append_assoc, List.append_assoc, List.singleton_append, mantissa_digits htake]
  split
  · next hlen => rw [List.nil_append, mantissa_exponent, List.append_nil, List.take_of_length_le hlen]
  · rw [List.cons_append, mantissa_point, mantissa_digits hdrop, mantissa_exponent, List.append_nil,
      List.take_append_drop]

/-- The significant digits of a decimal number in any layout, behind any sign, are the digits of the number without the
zeros at its end. -/
theorem significantDigits_render (negative : Bool) (l : Layout) {d : Decimal} (h : d.digits ≠ 0) :
    significantDigits ((if negative then ['-'] else []) ++ d.render l) = significantDigits (decimal d.digits) := by
  have hsignificant := significant_stripZeros h
  have hsign : mantissa ((if negative then ['-'] else []) ++ d.render l) = mantissa (d.render l) := by
    cases negative with
    | false => rfl
    | true => exact mantissa_minus
  have hrender : ∃ i k, mantissa (d.render l) =
      List.replicate i '0' ++ ((stripZeros (decimal d.digits)).1 ++ List.replicate k '0') := by
    have hstrip : stripZeros (decimal d.digits) =
        ((stripZeros (decimal d.digits)).1, (stripZeros (decimal d.digits)).2) := rfl
    rw [Decimal.render_of_stripZeros l h hstrip]
    split
    · exact mantissa_placeDigits hsignificant.digits _ _
    · refine ⟨0, 0, ?_⟩
      rw [mantissa_scaleDigits hsignificant.digits]
      simp
  obtain ⟨i, k, hmantissa⟩ := hrender
  rw [significantDigits_decimal h, significantDigits_of_mantissa hsignificant (hsign.trans hmantissa)]

/-! ## Literals in position -/

/-- A literal in position, without an exponent and without anything superfluous: no plus sign, a digit in front of the
point but no zero in front of others, and behind a point digits that do not end in a zero. -/
structure DecimalLiteral.IsPlain (l : DecimalLiteral) : Prop where
  sign : l.sign ≠ ['+']
  whole_ne_nil : l.whole ≠ []
  whole : l.whole.head? = some '0' → l.whole = ['0']
  fraction : ∀ es ∈ l.fraction, es ≠ [] ∧ es.getLast? ≠ some '0'
  exponent : l.exponent = none

theorem exists_placeDigits (hds : Significant ds) (exponent : Int) :
    ∃ (whole : List Char) (fraction : Option (List Char)),
      placeDigits false ds exponent = whole ++ fraction.elim [] ('.' :: ·) ∧
      Digits whole ∧ Digits (fraction.getD []) ∧ whole ≠ [] ∧ (whole.head? = some '0' → whole = ['0']) ∧
      ∀ es ∈ fraction, es ≠ [] ∧ es.getLast? ≠ some '0' := by
  obtain ⟨d, es, rfl⟩ := List.exists_cons_of_ne_nil hds.ne_nil
  unfold placeDigits
  split
  · refine ⟨(d :: es) ++ List.replicate exponent.toNat '0', none, by simp,
      digits_append.2 ⟨hds.digits, digits_replicate_zero _⟩, Digits.nil, by simp, fun h => absurd h hds.head, by simp⟩
  · simp only
    split
    · next hlt =>
      obtain ⟨k, hk⟩ : ∃ k, (d :: es).length - (-exponent).toNat = k + 1 :=
        ⟨(d :: es).length - (-exponent).toNat - 1, by omega⟩
      rw [hk]
      have hsplit : (d :: es).take (k + 1) ++ (d :: es).drop (k + 1) = d :: es := List.take_append_drop _ _
      have hboth := digits_append.1 (hsplit.symm ▸ hds.digits)
      have hne : (d :: es).drop (k + 1) ≠ [] := by
        rw [← List.length_pos_iff, List.length_drop]
        omega
      refine ⟨(d :: es).take (k + 1), some ((d :: es).drop (k + 1)), by simp, hboth.1, hboth.2, by simp,
        fun h => absurd h hds.head, ?_⟩
      rintro fs ⟨⟩
      refine ⟨hne, fun hlast => hds.last ?_⟩
      rw [← hsplit, List.getLast?_append, hlast]
      rfl
    · refine ⟨['0'], some (List.replicate ((-exponent).toNat - (d :: es).length) '0' ++ (d :: es)), by simp,
        digits_replicate_zero 1, digits_append.2 ⟨digits_replicate_zero _, hds.digits⟩, by simp, fun _ => rfl, ?_⟩
      rintro fs ⟨⟩
      refine ⟨by simp, fun hlast => hds.last ?_⟩
      rwa [List.getLast?_append_of_ne_nil _ hds.ne_nil] at hlast

/-- The digits in position are a plain literal of their number. -/
theorem exists_plain (negative : Bool) (hds : Significant ds) (exponent : Int) :
    ∃ l : DecimalLiteral, l.text = (if negative then ['-'] else []) ++ placeDigits false ds exponent ∧ l.IsPlain ∧
      l.value = toSide negative (⟨ofDigits ds, exponent⟩ : Decimal).value := by
  obtain ⟨whole, fraction, hplace, hwhole, hfraction, hne, hzero, hlast⟩ := exists_placeDigits hds exponent
  have hsign : (if negative then ['-'] else []) ∈ signs ∧ (if negative then ['-'] else []) ≠ ['+'] ∧
      decide ((if negative then ['-'] else []) = ['-']) = negative := by
    cases negative <;> decide
  let l : DecimalLiteral :=
    ⟨if negative then ['-'] else [], whole, fraction, none, hsign.1, hwhole, hfraction,
      fun h => hne (List.append_eq_nil_iff.1 h).1⟩
  have hbody : l.body = placeDigits false ds exponent := by
    rw [hplace]
    simp [l, DecimalLiteral.body]
  obtain ⟨d, hd, hvalue⟩ := Decimal.read_placeDigits false hds.digits hds.ne_nil exponent
  have hread := l.read_body
  rw [hbody, hd] at hread
  refine ⟨l, by rw [DecimalLiteral.text, hbody], ⟨hsign.2.1, hne, hzero, hlast, rfl⟩, ?_⟩
  rw [DecimalLiteral.value, DecimalLiteral.scaledBy_eq, ← hvalue, Option.some.inj hread]
  exact congrArg (toSide · _) hsign.2.2

end PointSum.Number
