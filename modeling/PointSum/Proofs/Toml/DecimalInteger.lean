import PointSum.Proofs.Toml.NumberLiteral

/-!
# Decimal integers

* `DecimalInteger cs n` : the text is a decimal integer for the value, with underscores or without;
* `Grouped.isGrouped`, `ofDecimal?_whole`, `ofWord?_decimal` : its form is that of an integer;
* `intOf?_signed` : without the underscores it denotes its value;
* `DecimalInteger.exists_ofWord?` : if that has sixty-four bits, the text is a numeral that can be read.
-/

namespace PointSum.Toml

set_option autoImplicit false

open Number (isDigit isDigit_iff ofDigits onSide signs)

variable {c d : Char} {cs ds sign : List Char} {digit : Char → Bool} {n : Int}

/-- The text is a decimal integer for the value. -/
def DecimalInteger (cs : List Char) (n : Int) : Prop :=
  ∃ sign ∈ signs, ∃ ds, IsWhole ds ∧ cs = sign ++ ds ∧ n = onSide (sign = ['-']) (ofDigits (withoutMarks ds))

theorem DecimalInteger.isInteger (h : DecimalInteger cs n) : IntegerLiteral cs := by
  obtain ⟨sign, hsign, ds, hds, rfl, -⟩ := h
  exact .decimal hsign hds

/-! ## Underscores -/

theorem ne_mark_of_isDigit (h : isDigit c) : c ≠ '_' := by
  rintro rfl
  exact absurd h (by decide)

theorem splitOn_cons (hc : c ≠ '_') (cs : List Char) :
    (c :: cs).splitOn '_' = (cs.splitOn '_').modifyHead (c :: ·) := by
  have hne : (c == '_') = false := beq_false_of_ne hc
  unfold List.splitOn
  rw [List.splitOnP_cons_eq_if_modifyHead, hne]
  rfl

theorem splitOn_mark (cs : List Char) : ('_' :: cs).splitOn '_' = [] :: cs.splitOn '_' := by
  unfold List.splitOn
  rw [List.splitOnP_cons_eq_if_modifyHead]
  rfl

/-- The first part begins with a digit. -/
theorem Grouped.splitOn (h : Grouped isDigit cs) :
    ∃ c part parts, cs.splitOn '_' = (c :: part) :: parts ∧ isDigit c := by
  induction h with
  | @single c hc => exact ⟨c, [], [], splitOn_cons (ne_mark_of_isDigit hc) [], hc⟩
  | @next c cs hc h ih =>
    obtain ⟨d, part, parts, hparts, -⟩ := ih
    refine ⟨c, d :: part, parts, ?_, hc⟩
    rw [splitOn_cons (ne_mark_of_isDigit hc), hparts]
    rfl
  | @mark c cs hc h ih =>
    refine ⟨c, [], cs.splitOn '_', ?_, hc⟩
    rw [splitOn_cons (ne_mark_of_isDigit hc), splitOn_mark]
    rfl

/-- A sign or a digit before a digit does not matter. -/
theorem isGrouped_cons (hd : d ≠ '_') (h : Grouped isDigit cs) : isGrouped digit (d :: cs) = isGrouped digit cs := by
  obtain ⟨c, part, parts, hparts, -⟩ := h.splitOn
  unfold isGrouped
  rw [splitOn_cons hd, hparts]
  cases parts with
  | nil => rfl
  | cons q parts => simp [closesByDigit, List.getLast?_cons_cons]

theorem Grouped.isGrouped (h : Grouped isDigit cs) (hdigit : ∀ c, isDigit c → digit c) :
    Toml.isGrouped digit cs := by
  induction h with
  | @single c hc =>
    unfold Toml.isGrouped
    rw [splitOn_cons (ne_mark_of_isDigit hc)]
    rfl
  | @next c cs hc h ih =>
    rw [isGrouped_cons (ne_mark_of_isDigit hc) h]
    exact ih
  | @mark c cs hc h ih =>
    obtain ⟨d, part, parts, hparts, hd⟩ := h.splitOn
    unfold Toml.isGrouped at ih ⊢
    rw [splitOn_cons (ne_mark_of_isDigit hc), splitOn_mark, hparts]
    rw [hparts] at ih
    have hopens : opensByDigit digit (d :: part) := hdigit d hd
    have hcloses : closesByDigit digit [c] := hdigit c hc
    simpa [hopens, hcloses] using ih

theorem isDigitOf_of_isDigit (h : isDigit c) : isDigitOf 16 c := by
  have hlt : c.toNat - 0x30 < 16 := by
    have := isDigit_iff.1 h
    omega
  simp [isDigitOf, Number.digitBelow?, h, hlt]

/-! ## The form -/

theorem Grouped.forall_mem (h : Grouped isDigit cs) : ∀ c ∈ cs, isDigit c ∨ c = '_' := by
  induction h with
  | single hc => simpa using Or.inl hc
  | next hc h ih => exact List.forall_mem_cons.2 ⟨.inl hc, ih⟩
  | mark hc h ih => exact List.forall_mem_cons.2 ⟨.inl hc, List.forall_mem_cons.2 ⟨.inr rfl, ih⟩⟩

/-- A whole number that begins with a zero is one digit. -/
theorem IsWhole.ne_zero (h : IsWhole (c :: d :: cs)) : c ≠ '0' := by
  rintro rfl
  exact absurd (h.2 rfl) (by simp)

theorem splitSign_signed (hsign : sign ∈ signs) (h : Grouped isDigit ds) :
    splitSign (sign ++ ds) = (decide (sign ≠ []), ds) := by
  obtain ⟨c, cs, rfl, hc⟩ := h.exists_cons
  have hne : ¬ (c = '-' ∨ c = '+') := by
    rintro (rfl | rfl)
    · exact absurd hc (by decide)
    · exact absurd hc (by decide)
  rcases sign_cases hsign with rfl | rfl | rfl
  · exact if_neg hne
  · rfl
  · rfl

theorem withoutMarks_signed (hsign : sign ∈ signs) (ds : List Char) :
    withoutMarks (sign ++ ds) = sign ++ withoutMarks ds := by
  have hsigns : ∀ sign ∈ signs, withoutMarks sign = sign := by decide
  have happend : withoutMarks (sign ++ ds) = withoutMarks sign ++ withoutMarks ds := List.filter_append ..
  rw [happend, hsigns sign hsign]

theorem withoutMarks_digits (h : ∀ c ∈ cs, isDigit c) : withoutMarks cs = cs :=
  List.filter_eq_self.2 fun c hc => decide_eq_true (ne_mark_of_isDigit (h c hc))

theorem isGrouped_signed (hsign : sign ∈ signs) (h : Grouped isDigit ds) :
    isGrouped (isDigitOf 16) (sign ++ ds) := by
  have hds : isGrouped (isDigitOf 16) ds := h.isGrouped fun _ => isDigitOf_of_isDigit
  rcases sign_cases hsign with rfl | rfl | rfl
  · exact hds
  · exact (isGrouped_cons (by decide) h).trans hds
  · exact (isGrouped_cons (by decide) h).trans hds

theorem ofDecimal?_whole (hsign : sign ∈ signs) (h : IsWhole ds) :
    Numeral.ofDecimal? (sign ++ ds) ds = some (.integer 10 (withoutMarks (sign ++ ds))) := by
  obtain ⟨c, cs, hcs, hc⟩ := h.1.exists_cons
  unfold Numeral.ofDecimal?
  cases htail : ds.dropWhile isDigit with
  | nil =>
    have hdigits : ∀ c ∈ ds, isDigit c := List.dropWhile_eq_nil_iff.1 htail
    have hform : ds = ['0'] ∨ (ds ≠ [] ∧ ds.head? ≠ some '0') := by
      by_cases hzero : ds.head? = some '0'
      · exact .inl (h.2 hzero)
      · exact .inr ⟨by simp [hcs], hzero⟩
    rw [withoutMarks_signed hsign, withoutMarks_digits hdigits]
    simp only [if_true]
    exact if_pos hform
  | cons d tail =>
    -- The first character that is no digit is an underscore, and there is nothing but digits and underscores.
    have hmem : ∀ e ∈ d :: tail, isDigit e ∨ e = '_' := fun e he =>
      h.1.forall_mem e ((List.dropWhile_suffix isDigit).subset (htail ▸ he))
    have hnotDigit : ¬ isDigit d := by
      have hhead := List.head_dropWhile_not isDigit (l := ds) (by simp [htail])
      simpa [htail] using hhead
    obtain rfl : d = '_' := (hmem d List.mem_cons_self).resolve_left hnotDigit
    have hne : ∀ e ∈ '_' :: tail, (e == '.' || e == 'e' || e == 'E') = false ∧ e ≠ ' ' := by
      intro e he
      rcases hmem e he with hdigit | rfl
      · have hother : ∀ f, isDigit f = false → e ≠ f := by
          rintro f hf rfl
          exact absurd hdigit (by simp [hf])
        simp [hother '.' rfl, hother 'e' rfl, hother 'E' rfl, hother ' ' rfl]
      · decide
    have hplain : ('_' :: tail).any (fun c => c == '.' || c == 'e' || c == 'E') = false :=
      List.any_eq_false.2 fun e he => by simp [(hne e he).1]
    have hspace : ' ' ∉ tail := fun he => (hne ' ' (List.mem_cons_of_mem _ he)).2 rfl
    have hzero : ds.head? ≠ some '0' := by
      intro hzero
      rw [h.2 hzero] at htail
      cases htail
    simp [hplain, hspace, hzero, isGrouped_signed hsign h.1]

theorem ofWord?_decimal (hsign : sign ∈ signs) (h : IsWhole ds) :
    Numeral.ofWord? (sign ++ ds) = some (.integer 10 (withoutMarks (sign ++ ds))) := by
  have hdecimal := ofDecimal?_whole hsign h
  have hsplit := splitSign_signed hsign h.1
  obtain ⟨c, cs, rfl, hc⟩ := h.1.exists_cons
  have hwords : ¬ (c :: cs = "inf".toList ∨ c :: cs = "nan".toList) := by
    rintro (hcs | hcs)
    · obtain rfl : c = 'i' := (List.cons.inj hcs).1
      exact absurd hc (by decide)
    · obtain rfl : c = 'n' := (List.cons.inj hcs).1
      exact absurd hc (by decide)
  unfold Numeral.ofWord?
  simp only [hsplit, if_neg hwords]
  split
  · next heq =>
    cases heq
    exact absurd rfl h.ne_zero
  · exact hdecimal

/-! ## Their values -/

theorem natOf?_digits (hne : cs ≠ []) (h : ∀ c ∈ cs, isDigit c) : natOf? 10 cs = some (ofDigits cs) := by
  have hfold : ∀ m, cs.foldlM (fun n c => (Number.digitBelow? 10 c).map fun d => 10 * n + d) m =
      some (Number.appendDigits m cs) := by
    clear hne
    induction cs with
    | nil => exact fun m => rfl
    | cons c cs ih =>
      intro m
      obtain ⟨hc, hcs⟩ := List.forall_mem_cons.1 h
      have hlt : c.toNat - 0x30 < 10 := by
        have := isDigit_iff.1 hc
        omega
      have hdigit : Number.digitBelow? 10 c = some (c.toNat - 0x30) := by simp [Number.digitBelow?, hc, hlt]
      rw [List.foldlM_cons, hdigit, Number.appendDigits_cons]
      exact ih hcs _
  unfold natOf?
  rw [if_neg hne]
  exact hfold 0

theorem intOf?_signed (hsign : sign ∈ signs) (hne : cs ≠ []) (h : ∀ c ∈ cs, isDigit c) :
    intOf? 10 (sign ++ cs) = some (onSide (sign = ['-']) (ofDigits cs)) := by
  obtain ⟨c, cs', rfl⟩ := List.exists_cons_of_ne_nil hne
  have hc := h c List.mem_cons_self
  have hminus : c ≠ '-' := by
    rintro rfl
    exact absurd hc (by decide)
  have hplus : c ≠ '+' := by
    rintro rfl
    exact absurd hc (by decide)
  have hnat := natOf?_digits hne h
  rcases sign_cases hsign with rfl | rfl | rfl
  · simp [intOf?, splitSign, hminus, hplus, hnat, onSide]
  · simp [intOf?, splitSign, hnat, onSide]
  · simp [intOf?, splitSign, hnat, onSide]

theorem isPassableInt_of_holds (h : Number.WordFormat.int64.Holds n) : isPassableInt n := by
  have hleast : Number.WordFormat.int64.least = -2 ^ 63 := rfl
  have hgreatest : Number.WordFormat.int64.greatest = 2 ^ 63 - 1 := rfl
  unfold Number.WordFormat.Holds at h
  simp only [isPassableInt, Bool.and_eq_true, decide_eq_true_eq]
  omega

/-- A decimal integer of sixty-four bits is a numeral that can be read. -/
theorem DecimalInteger.exists_ofWord? (h : DecimalInteger cs n) (hn : Number.WordFormat.int64.Holds n) :
    ∃ m : Numeral, Value.ofWord? cs = some (.number m) ∧ m.isReadable := by
  obtain ⟨sign, hsign, ds, hds, rfl, rfl⟩ := h
  refine ⟨.integer 10 (withoutMarks (sign ++ ds)), ?_, ?_⟩
  · have hwords : ∀ word, (splitSign word).2.head?.all (fun c => !isDigit c) → sign ++ ds ≠ word := by
      rintro word hword rfl
      obtain ⟨c, cs, hcs, hc⟩ := hds.1.exists_cons
      rw [splitSign_signed hsign hds.1, hcs] at hword
      simp [hc] at hword
    unfold Value.ofWord?
    rw [if_neg (hwords "true".toList rfl), if_neg (hwords "false".toList rfl), ofWord?_decimal hsign hds]
  · obtain ⟨c, cs, hcs, hc⟩ := hds.1.exists_cons
    have hdigits : ∀ c ∈ withoutMarks ds, isDigit c := by
      intro c hc
      obtain ⟨hmem, hne⟩ := List.mem_filter.1 hc
      exact (hds.1.forall_mem c hmem).resolve_right (of_decide_eq_true hne)
    have hne : withoutMarks ds ≠ [] := by
      have hmem : c ∈ withoutMarks ds := List.mem_filter.2 ⟨by simp [hcs], decide_eq_true (ne_mark_of_isDigit hc)⟩
      exact List.ne_nil_of_mem hmem
    have hvalue := intOf?_signed hsign hne hdigits
    rw [← withoutMarks_signed hsign] at hvalue
    simp only [Numeral.isReadable, hvalue, Option.any_some]
    exact isPassableInt_of_holds hn

end PointSum.Toml
