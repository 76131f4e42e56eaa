import PointSum.Proofs.Number.Whole
import PointSum.Proofs.Point.Grammar
import PointSum.Proofs.Run.Sum

/-!
# The two modes on integers

* `MinusZero cs` : `cs` is zero, written with a minus sign;
* `render_add_numerals` : the sum of two numerals as binary numbers has the digits of the sum of the integers, as long
  as these are exact and the numerals are not both minus zeros;
* `read_binary_of_read_word` : a point of integers is also read as a point of binary numbers;
* `sumText_modes_agree` : so where integers have a sum, binary numbers have one, and both have the same text.
-/

namespace PointSum

set_option autoImplicit false

open Number

/-- Zero, written with a minus sign. -/
def MinusZero (cs : List Char) : Prop := ∃ k, cs = '-' :: List.replicate (k + 1) '0'

variable {f : BinaryFormat} {w : WordFormat} {a b : Int} {cs ds : List Char}

theorem Number.Numeral.minusZero (h : Numeral w cs 0) (hsign : cs.head? = some '-') : MinusZero cs := by
  obtain ⟨ds, hne, hds, -, ⟨rfl | rfl, -⟩ | ⟨-, rfl, hzero⟩⟩ := h
  · obtain ⟨c, cs, rfl⟩ := List.exists_cons_of_ne_nil hne
    rw [List.head?_cons] at hsign
    obtain rfl := Option.some.inj hsign
    exact absurd (digits_cons.1 hds).1 (by decide)
  · exact absurd hsign (by simp)
  · have hlen : ds.length = ds.length - 1 + 1 := by
      have := List.length_pos_iff.2 hne
      omega
    have := eq_replicate_of_ofDigits_eq_zero hds (by omega)
    rw [hlen] at this
    exact ⟨_, congrArg _ this⟩

/-! ## Sums of numerals -/

/-- The binary number that a numeral is read as. -/
def numeralBinary (f : BinaryFormat) (cs : List Char) (a : Int) : Binary f :=
  (Decimal.whole a.natAbs).toBinary f (cs.head? = some '-')

theorem render_add_numerals (hf : f.Ample) (hcs : Numeral w cs a) (hds : Numeral w ds b)
    (ha : a.natAbs ≤ 2 ^ (f.fractionBits + 1)) (hb : b.natAbs ≤ 2 ^ (f.fractionBits + 1))
    (hsum : (a + b).natAbs ≤ 2 ^ (f.fractionBits + 1)) (hzeros : ¬ (MinusZero cs ∧ MinusZero ds)) :
    ((numeralBinary f cs a).add (numeralBinary f ds b)).render .plain = signedDecimal (a + b) := by
  have hside := (Binary.readLiteral_numeral (f := f) hcs).2
  have hside' := (Binary.readLiteral_numeral (f := f) hds).2
  refine Binary.render_add_whole hf ha hb (by rw [hside, hside']) hsum ?_
  rintro ⟨hs, ht, hm, hn⟩
  obtain rfl := Int.natAbs_eq_zero.1 hm
  obtain rfl := Int.natAbs_eq_zero.1 hn
  exact hzeros ⟨hcs.minusZero (of_decide_eq_true hs), hds.minusZero (of_decide_eq_true ht)⟩

/-! ## Points -/

/-- A point of integers is a pair of numerals, and is also read as a point of binary numbers. -/
theorem read_binary_of_read_word {raw : String} {p : Point (Word w)} (h : Point.read (Word w) raw = .ok p) :
    ∃ x y, coordinateTexts raw.toList = some (x, y) ∧ Numeral w x p.x.toInt ∧ Numeral w y p.y.toInt ∧
      Point.read (Binary f) raw = .ok ⟨numeralBinary f x p.x.toInt, numeralBinary f y p.y.toInt⟩ := by
  obtain ⟨x, y, hxy, hx, hy⟩ := read_eq_ok_iff.1 h
  have hx := Word.read_eq_ok_iff.1 hx
  have hy := Word.read_eq_ok_iff.1 hy
  exact ⟨x, y, hxy, hx, hy, read_eq_ok_iff.2
    ⟨x, y, hxy, (Binary.readLiteral_numeral hx).1, (Binary.readLiteral_numeral hy).1⟩⟩

/-- Where integers have a sum, binary numbers have one too. Both are written the same if the coordinates and the sums
are exact in double precision, and on neither axis both coordinates are zero written with a minus sign. -/
theorem sumText_modes_agree (lhs rhs t : String) (h : sumText .int lhs rhs = .ok t) :
    (∃ u, sumText .float lhs rhs = .ok u) ∧
    ∀ p q x₁ y₁ x₂ y₂, Point.read (Word .int64) lhs = .ok p → Point.read (Word .int64) rhs = .ok q →
      coordinateTexts lhs.toList = some (x₁, y₁) → coordinateTexts rhs.toList = some (x₂, y₂) →
      (∀ n ∈ [p.x.toInt, p.y.toInt, q.x.toInt, q.y.toInt, p.x.toInt + q.x.toInt, p.y.toInt + q.y.toInt],
        n.natAbs ≤ 2 ^ 53) →
      ¬ (MinusZero x₁ ∧ MinusZero x₂) → ¬ (MinusZero y₁ ∧ MinusZero y₂) → sumText .float lhs rhs = .ok t := by
  obtain ⟨p, q, sum, hp, hq, hsum, rfl⟩ := sumText_int_eq_ok_iff.1 h
  obtain ⟨x, y, hxy, hx, hy, hlhs⟩ := read_binary_of_read_word (f := .double) hp
  obtain ⟨x', y', hxy', hx', hy', hrhs⟩ := read_binary_of_read_word (f := .double) hq
  have hfloat := sumText_float_eq_ok_iff.2 ⟨_, _, _, hlhs, hrhs, Point.add_binary _ _, rfl⟩
  refine ⟨⟨_, hfloat⟩, ?_⟩
  intro p' q' x₁ y₁ x₂ y₂ hp' hq' h₁ h₂ hbound hxzero hyzero
  obtain rfl := Except.ok.inj (hp'.symm.trans hp)
  obtain rfl := Except.ok.inj (hq'.symm.trans hq)
  obtain ⟨rfl, rfl⟩ := Prod.mk.inj (Option.some.inj (h₁.symm.trans hxy))
  obtain ⟨rfl, rfl⟩ := Prod.mk.inj (Option.some.inj (h₂.symm.trans hxy'))
  simp only [List.forall_mem_cons, List.not_mem_nil, false_imp_iff, implies_true, and_true] at hbound
  obtain ⟨hpx, hpy, hqx, hqy, hsx, hsy⟩ := hbound
  obtain ⟨hsumx, hsumy⟩ := Point.add?_word_eq_ok_iff.1 hsum
  have hxtext : ((numeralBinary .double x₁ p'.x.toInt).add (numeralBinary .double x₂ q'.x.toInt)).render .plain =
      sum.x.text := by
    rw [render_add_numerals ample_double hx hx' hpx hqx hsx hxzero, ← hsumx]
    rfl
  have hytext : ((numeralBinary .double y₁ p'.y.toInt).add (numeralBinary .double y₂ q'.y.toInt)).render .plain =
      sum.y.text := by
    rw [render_add_numerals ample_double hy hy' hpy hqy hsy hyzero, ← hsumy]
    rfl
  rw [hfloat, Point.text_congr (q := sum) hxtext hytext]

theorem sumText_modes_agree_padded :
    sumText .int "+007,-000" "(9007199254740985, 0)" = .ok "(9007199254740992, 0)" ∧
      (∃ u, sumText .float "+007,-000" "(9007199254740985, 0)" = .ok u) ∧
      Point.read (Word .int64) "+007,-000" = .ok ⟨⟨7#64⟩, ⟨0#64⟩⟩ ∧
      Point.read (Word .int64) "(9007199254740985, 0)" = .ok ⟨⟨9007199254740985#64⟩, ⟨0#64⟩⟩ ∧
      coordinateTexts "+007,-000".toList = some ("+007".toList, "-000".toList) ∧
      coordinateTexts "(9007199254740985, 0)".toList = some ("9007199254740985".toList, "0".toList) ∧
      ¬ (MinusZero "+007".toList ∧ MinusZero "9007199254740985".toList) ∧
      ¬ (MinusZero "-000".toList ∧ MinusZero "0".toList) ∧
      sumText .float "+007,-000" "(9007199254740985, 0)" = .ok "(9007199254740992, 0)" := by
  have hsum : sumText .int "+007,-000" "(9007199254740985, 0)" = .ok "(9007199254740992, 0)" := by decide +kernel
  have hlhs : Point.read (Word .int64) "+007,-000" = .ok ⟨⟨7#64⟩, ⟨0#64⟩⟩ := by decide +kernel
  have hrhs : Point.read (Word .int64) "(9007199254740985, 0)" = .ok ⟨⟨9007199254740985#64⟩, ⟨0#64⟩⟩ := by
    decide +kernel
  have hlhs' : coordinateTexts "+007,-000".toList = some ("+007".toList, "-000".toList) := by decide +kernel
  have hrhs' : coordinateTexts "(9007199254740985, 0)".toList = some ("9007199254740985".toList, "0".toList) := by
    decide +kernel
  have hsign : ∀ cs, cs.head? ≠ some '-' → ¬ MinusZero cs := by
    rintro cs hcs ⟨k, rfl⟩
    exact hcs rfl
  have hx : ¬ (MinusZero "+007".toList ∧ MinusZero "9007199254740985".toList) :=
    fun h => hsign _ (by decide) h.1
  have hy : ¬ (MinusZero "-000".toList ∧ MinusZero "0".toList) := fun h => hsign _ (by decide) h.2
  obtain ⟨hfloat, hagree⟩ := sumText_modes_agree _ _ _ hsum
  exact ⟨hsum, hfloat, hlhs, hrhs, hlhs', hrhs', hx, hy,
    hagree _ _ _ _ _ _ hlhs hrhs hlhs' hrhs' (by decide +kernel) hx hy⟩

end PointSum
