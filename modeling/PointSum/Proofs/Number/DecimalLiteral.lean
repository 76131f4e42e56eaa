import Mathlib.Data.List.Infix
import PointSum.Proofs.Number.Rounded
import PointSum.Proofs.Number.Shortest

/-!
# Literals and the numbers they denote

* `DecimalLiteral` : a decimal literal by its parts; `DecimalLiteral.value` : the rational number that it denotes;
* `countedDigits` : the digits of an exponent that the reader counts; `DecimalLiteral.countedValue` : the rational
  number with these digits alone; `DecimalLiteral.CountsInFull` : literals for which this makes no difference;
* `Spells word sign cs` : `cs` is a word in letters of either case behind a sign or none;
* `IsLiteral cs` : `cs` is a literal of a binary number; `Denotes cs a` : `a` is the binary number for it;
* `readLiteral_isOk_iff`, `denotes_of_readLiteral` : the reader accepts the literals and gives their numbers.
-/

namespace PointSum.Number

set_option autoImplicit false

/-- The signs in front of a numeral. -/
def signs : List (List Char) := [[], ['+'], ['-']]

/-- An exponent as it is written. -/
structure Exponent where
  letter : Char
  sign : List Char
  digits : List Char
  letter_eq : letter = 'e' ∨ letter = 'E' := by decide
  sign_mem : sign ∈ signs := by decide
  digits_ne_nil : digits ≠ [] := by decide
  digits_digits : Digits digits

/-- The digits of an exponent that count: the shortest beginning that denotes `2 ^ 16` or more, and all of them if none
does. -/
def countedDigits (ds : List Char) : List Char :=
  (ds.inits.find? fun es => 0x10000 ≤ ofDigits es).getD ds

namespace Exponent

def text (e : Exponent) : List Char := e.letter :: (e.sign ++ e.digits)

/-- The integer that the exponent denotes. -/
def value (e : Exponent) : Int := onSide (e.sign = ['-']) (ofDigits e.digits)

/-- The integer that the digits that count denote. -/
def counted (e : Exponent) : Int := onSide (e.sign = ['-']) (ofDigits (countedDigits e.digits))

end Exponent

/-- A decimal literal as it is written: a sign or none, digits with at most one point among them, at least one digit,
and an exponent or none. -/
structure DecimalLiteral where
  sign : List Char
  whole : List Char
  /-- The digits behind the point, if there is one. -/
  fraction : Option (List Char)
  exponent : Option Exponent
  sign_mem : sign ∈ signs := by decide
  digits_whole : Digits whole
  digits_fraction : Digits (fraction.getD [])
  digits_ne_nil : whole ++ fraction.getD [] ≠ []

namespace DecimalLiteral

variable (l : DecimalLiteral)

def negative : Bool := l.sign = ['-']

def digits : List Char := l.whole ++ l.fraction.getD []

def places : Nat := (l.fraction.getD []).length

/-- The literal without its sign. -/
def body : List Char :=
  l.whole ++ ((l.fraction.elim [] ('.' :: ·)) ++ l.exponent.elim [] Exponent.text)

def text : List Char := l.sign ++ l.body

/-- The number that the digits denote, scaled by a power of ten. -/
def scaledBy (scale : Int) : ℚ := toSide l.negative (ofDigits l.digits * 10 ^ (scale - l.places))

/-- The rational number that the literal denotes. -/
def value : ℚ := l.scaledBy (l.exponent.elim 0 Exponent.value)

/-- The rational number that the literal denotes if only some digits of its exponent count. -/
def countedValue : ℚ := l.scaledBy (l.exponent.elim 0 Exponent.counted)

/-- The literals whose number does not depend on whether all digits of the exponent count: those of exponents below
`10 * 2 ^ 16`, and those with few other digits. -/
def CountsInFull (f : BinaryFormat) : Prop :=
  (∀ e ∈ l.exponent, ofDigits e.digits < 10 * 0x10000) ∨
    l.digits.length + f.exponentLimit + f.unitExponent < 0x10000

end DecimalLiteral

/-! ## The digits of an exponent that count -/

section Counted

variable {ds : List Char}

theorem countedDigits_concat (ds : List Char) (c : Char) :
    countedDigits (ds ++ [c]) = if ofDigits (countedDigits ds) < 0x10000 then ds ++ [c] else countedDigits ds := by
  have hinits : (ds ++ [c]).inits = ds.inits ++ [ds ++ [c]] := by simp [List.inits_append]
  unfold countedDigits
  rw [hinits, List.find?_append]
  cases hfind : ds.inits.find? fun es => 0x10000 ≤ ofDigits es with
  | none =>
    have hlt : ofDigits ds < 0x10000 := by simpa using List.find?_eq_none.1 hfind ds (by simp)
    rw [Option.none_or, Option.getD_none, if_pos hlt]
    by_cases hc : 0x10000 ≤ ofDigits (ds ++ [c]) <;> simp [hc]
  | some es =>
    have hle : 0x10000 ≤ ofDigits es := by simpa using List.find?_some hfind
    rw [Option.some_or, Option.getD_some, Option.getD_some, if_neg (by omega)]

/-- The reader of exponents reads the digits that count. -/
theorem appendExponent_eq_counted (ds : List Char) : Decimal.appendExponent 0 ds = ofDigits (countedDigits ds) := by
  induction ds using List.reverseRecOn with
  | nil => rfl
  | append_singleton ds c ih =>
    have hstep : Decimal.appendExponent 0 (ds ++ [c]) =
        if Decimal.appendExponent 0 ds < 0x10000 then 10 * Decimal.appendExponent 0 ds + (c.toNat - 0x30)
        else Decimal.appendExponent 0 ds := by
      rw [Decimal.appendExponent, List.foldl_append]
      rfl
    rw [hstep, countedDigits_concat, ih]
    split
    · next hlt =>
      -- As long as the bound is not reached all digits count.
      have hall : countedDigits ds = ds := by
        unfold countedDigits at hlt ⊢
        cases hfind : ds.inits.find? fun es => 0x10000 ≤ ofDigits es with
        | none => rfl
        | some es =>
          have hle : 0x10000 ≤ ofDigits es := by simpa using List.find?_some hfind
          rw [hfind, Option.getD_some] at hlt
          omega
      rw [hall, ofDigits, ofDigits, appendDigits, appendDigits, List.foldl_append]
      rfl
    · rfl

theorem ofDigits_countedDigits_of_lt (h : ofDigits ds < 10 * 0x10000) : ofDigits (countedDigits ds) = ofDigits ds := by
  rw [← appendExponent_eq_counted]
  exact Decimal.appendExponent_eq h

theorem le_ofDigits_countedDigits (h : 0x10000 ≤ ofDigits ds) : 0x10000 ≤ ofDigits (countedDigits ds) := by
  unfold countedDigits
  cases hfind : ds.inits.find? fun es => 0x10000 ≤ ofDigits es with
  | none =>
    have := List.find?_eq_none.1 hfind ds (by simp)
    simp only [decide_eq_true_eq] at this
    omega
  | some es => simpa using List.find?_some hfind

end Counted

namespace DecimalLiteral

variable {f : BinaryFormat}

/-! ## Reading decimal literals -/

/-- The decimal number of the digits with the given scale. -/
def decimal (l : DecimalLiteral) (scale : Int) : Decimal := ⟨ofDigits l.digits, scale - l.places⟩

theorem scaledBy_eq (l : DecimalLiteral) (scale : Int) : l.scaledBy scale = toSide l.negative (l.decimal scale).value :=
  rfl

theorem scaled_exponent (l : DecimalLiteral) :
    Decimal.Scaled (l.exponent.elim [] Exponent.text) (l.exponent.elim 0 Exponent.counted) := by
  cases l.exponent with
  | none => exact .inl ⟨rfl, rfl⟩
  | some e =>
    refine .inr ⟨e.letter, e.sign, e.digits, e.letter_eq, e.sign_mem, e.digits_ne_nil, e.digits_digits, rfl, ?_⟩
    rw [appendExponent_eq_counted]
    rfl

theorem read_body (l : DecimalLiteral) :
    Decimal.read l.body = some (l.decimal (l.exponent.elim 0 Exponent.counted)) := by
  rw [Decimal.read_eq_some_iff]
  have hne : l.whole ≠ [] ∨ l.fraction.getD [] ≠ [] := by
    by_contra h
    rw [not_or, not_not, not_not] at h
    exact l.digits_ne_nil (by rw [h.1, h.2, List.append_nil])
  refine ⟨l.whole, l.fraction.getD [], _, _, ?_, l.digits_whole, l.digits_fraction, hne, l.scaled_exponent, rfl⟩
  unfold body
  cases l.fraction with
  | none => exact .inl ⟨rfl, rfl⟩
  | some ds => exact .inr rfl

theorem exists_of_read {cs sign : List Char} {d : Decimal} (h : Decimal.read cs = some d) (hsign : sign ∈ signs) :
    ∃ l : DecimalLiteral, l.sign = sign ∧ l.body = cs := by
  obtain ⟨whole, fraction, rest, scale, hcs, hwhole, hfraction, hne, hscale, -⟩ := Decimal.read_eq_some_iff.1 h
  have hexp : ∃ e : Option Exponent, rest = e.elim [] Exponent.text := by
    rcases hscale with ⟨rfl, -⟩ | ⟨c, s, ds, hc, hs, hds, hdigits, rfl, -⟩
    · exact ⟨none, rfl⟩
    · exact ⟨some ⟨c, s, ds, hc, hs, hds, hdigits⟩, rfl⟩
  obtain ⟨e, rfl⟩ := hexp
  have hne' : whole ++ fraction ≠ [] := by
    rw [ne_eq, List.append_eq_nil_iff, not_and_or]
    exact hne
  rcases hcs with ⟨rfl, rfl⟩ | rfl
  · exact ⟨⟨sign, whole, none, e, hsign, hwhole, hfraction, hne'⟩, rfl, rfl⟩
  · exact ⟨⟨sign, whole, some fraction, e, hsign, hwhole, hfraction, hne'⟩, rfl, rfl⟩

/-! ## Large exponents -/

theorem magnitude_eq_infinity {d k : Nat} (hd : 0 < d) (hk : f.exponentLimit ≤ k) :
    (⟨d, k⟩ : Decimal).magnitude f = f.infinity := by
  rw [Decimal.magnitude_eq_nearest]
  refine BinaryFormat.nearest_eq_infinity (Nat.pow_pos (by decide)) ?_
  have hpow : 2 ^ f.exponentLimit ≤ d * 10 ^ k :=
    calc 2 ^ f.exponentLimit ≤ 2 ^ k := Nat.pow_le_pow_right (by decide) hk
      _ ≤ 10 ^ k := Nat.pow_le_pow_left (by decide) k
      _ ≤ d * 10 ^ k := Nat.le_mul_of_pos_left _ hd
  simp only [show (-(k : Int)).toNat = 0 by omega, Int.toNat_natCast, Nat.pow_zero, Nat.mul_one]
  rw [BinaryFormat.units_infinity, Nat.pow_add]
  exact Nat.mul_le_mul_right _ hpow

theorem magnitude_eq_zero {d k n : Nat} (hd : d < 10 ^ n) (hk : n + f.unitExponent < k) :
    (⟨d, -(k : Int)⟩ : Decimal).magnitude f = 0 := by
  rw [Decimal.magnitude_eq_nearest]
  refine BinaryFormat.nearest_eq_zero (Nat.pow_pos (by decide)) ?_
  simp only [show (-(k : Int)).toNat = 0 by omega, Int.neg_neg, Int.toNat_natCast, Nat.pow_zero, Nat.mul_one]
  calc 2 * (d * 2 ^ f.unitExponent) < 2 * (10 ^ n * 2 ^ f.unitExponent) :=
        Nat.mul_lt_mul_of_pos_left (Nat.mul_lt_mul_of_pos_right hd (Nat.two_pow_pos _)) (by decide)
    _ = 10 ^ n * 2 ^ (f.unitExponent + 1) := by rw [Nat.pow_succ]; ring
    _ ≤ 10 ^ n * 10 ^ (f.unitExponent + 1) := Nat.mul_le_mul_left _ (Nat.pow_le_pow_left (by decide) _)
    _ = 10 ^ (n + f.unitExponent + 1) := by rw [← Nat.pow_add]; rfl
    _ ≤ 10 ^ k := Nat.pow_le_pow_right (by decide) hk

theorem toBinary_decimal_congr (l : DecimalLiteral) {s : Bool} {m n : Nat}
    (hfew : l.digits.length + f.exponentLimit + f.unitExponent < 0x10000) (hm : 0x10000 ≤ m) (hn : 0x10000 ≤ n) :
    (l.decimal (onSide s m)).toBinary f l.negative = (l.decimal (onSide s n)).toBinary f l.negative := by
  have hplaces : l.places ≤ l.digits.length := by
    unfold places digits
    rw [List.length_append]
    exact Nat.le_add_left _ _
  have hlt := ofDigits_lt (digits_append.2 ⟨l.digits_whole, l.digits_fraction⟩)
  simp only [Decimal.toBinary, Binary.mk.injEq, true_and, decimal]
  -- An exponent that reaches the bound takes a number of few digits out of the format, on the side of its sign.
  rcases Nat.eq_zero_or_pos (ofDigits l.digits) with hzero | hpos
  · simp [hzero, Decimal.magnitude]
  · cases s with
    | false =>
      have hinf : ∀ k, 0x10000 ≤ k →
          (⟨ofDigits l.digits, onSide false k - l.places⟩ : Decimal).magnitude f = f.infinity := by
        intro k hk
        obtain ⟨j, hj⟩ := Nat.exists_eq_add_of_le (show l.places ≤ k by omega)
        have hexp : onSide false k - l.places = (j : Int) := by
          rw [onSide, if_neg (by decide), hj]
          omega
        rw [hexp]
        exact magnitude_eq_infinity hpos (by omega)
      rw [hinf m hm, hinf n hn]
    | true =>
      have hzero : ∀ k, 0x10000 ≤ k →
          (⟨ofDigits l.digits, onSide true k - l.places⟩ : Decimal).magnitude f = 0 := by
        intro k hk
        have hexp : onSide true k - l.places = -((k + l.places : Nat) : Int) := by
          rw [onSide, if_pos rfl]
          omega
        rw [hexp]
        exact magnitude_eq_zero hlt (by unfold digits at hfew; omega)
      rw [hzero m hm, hzero n hn]

/-- The number that is read is the literal's value rounded, if its exponent counts in full. -/
theorem CountsInFull.toBinary_eq {l : DecimalLiteral} (h : l.CountsInFull f) :
    (l.decimal (l.exponent.elim 0 Exponent.counted)).toBinary f l.negative =
      (l.decimal (l.exponent.elim 0 Exponent.value)).toBinary f l.negative := by
  unfold CountsInFull at h
  cases hexp : l.exponent with
  | none => rfl
  | some e =>
    rw [hexp] at h
    by_cases hlt : ofDigits e.digits < 10 * 0x10000
    · simp only [Option.elim_some, Exponent.counted, Exponent.value, ofDigits_countedDigits_of_lt hlt]
    · have hfew := h.resolve_left fun hall => hlt (hall e rfl)
      exact l.toBinary_decimal_congr hfew (le_ofDigits_countedDigits (by omega)) (by omega)

end DecimalLiteral

/-! ## Literals of binary numbers -/

/-- The text is the word, in letters of either case, behind the sign. -/
def Spells (word : String) (sign cs : List Char) : Prop :=
  sign ∈ signs ∧ ∃ letters, cs = sign ++ letters ∧ letters.map Char.toLower = word.toList

/-- The text is a literal of a binary number: a decimal literal, or a word for an infinity or for NaN. -/
def IsLiteral (cs : List Char) : Prop :=
  (∃ l : DecimalLiteral, cs = l.text) ∨ ∃ word ∈ ["inf", "infinity", "nan"], ∃ sign, Spells word sign cs

namespace Binary

variable {f : BinaryFormat} {a : Binary f} {cs sign : List Char}

/-- The binary number is the one that the literal denotes. -/
structure Denotes (cs : List Char) (a : Binary f) : Prop where
  /-- The sign of a decimal literal is kept, also where its number is zero or is rounded to zero. -/
  sign : ∀ l : DecimalLiteral, cs = l.text → a.negative = l.negative
  rounds_counted : ∀ l : DecimalLiteral, cs = l.text → Rounds l.countedValue a
  rounds : ∀ l : DecimalLiteral, cs = l.text → l.CountsInFull f → Rounds l.value a
  infinite : ∀ sign, Spells "inf" sign cs ∨ Spells "infinity" sign cs → a = infinity (sign = ['-'])
  nan : ∀ sign, Spells "nan" sign cs → a.isNaN

theorem readLiteral_signed (hsign : sign ∈ signs) {c : Char} {cs : List Char} (hplus : c ≠ '+') (hminus : c ≠ '-') :
    readLiteral f (sign ++ c :: cs) = readUnsigned f (sign = ['-']) (c :: cs) := by
  simp only [signs, List.mem_cons, List.not_mem_nil, or_false] at hsign
  rcases hsign with rfl | rfl | rfl
  · simp [readLiteral, hplus, hminus]
  · rfl
  · rfl

theorem exists_readUnsigned (h : readLiteral f cs = .ok a) :
    ∃ sign ∈ signs, ∃ body, cs = sign ++ body ∧ readUnsigned f (sign = ['-']) body = .ok a := by
  cases cs with
  | nil => cases h
  | cons c ds =>
    rw [readLiteral] at h
    split at h
    · next hc => exact ⟨['-'], by decide, ds, by rw [hc]; rfl, h⟩
    · split at h
      · next hc => exact ⟨['+'], by decide, ds, by rw [hc]; rfl, h⟩
      · exact ⟨[], by decide, c :: ds, rfl, h⟩

theorem readLiteral_text (l : DecimalLiteral) :
    readLiteral f l.text = .ok ((l.decimal (l.exponent.elim 0 Exponent.counted)).toBinary f l.negative) := by
  have hread := l.read_body
  obtain ⟨c, ds, hbody, hplus, hminus⟩ := Decimal.ne_sign_of_read hread
  rw [DecimalLiteral.text, hbody, readLiteral_signed l.sign_mem hplus hminus, ← hbody, readUnsigned_of_read hread]
  rfl

/-! ## Words -/

theorem not_isLiteralChar_of_toLower {c : Char} (h : c.toLower = 'i' ∨ c.toLower = 'n') :
    ¬ Decimal.IsLiteralChar c := by
  rintro (hc | hc)
  · have hdigit := isDigit_iff.1 hc
    have hlow : c.toLower = c := by
      refine dif_neg fun hupper => ?_
      have := hupper.1
      simp only [UInt32.le_iff_toNat_le] at this
      have hA : ('A'.val).toNat = 0x41 := rfl
      have hval : c.val.toNat = c.toNat := rfl
      omega
    rw [hlow] at h
    rcases h with rfl | rfl <;> exact absurd hc (by decide)
  · simp only [List.mem_cons, List.not_mem_nil, or_false] at hc
    rcases hc with rfl | rfl | rfl | rfl | rfl <;> exact absurd h (by decide)

theorem readLiteral_word {word : String} (hword : word ∈ ["inf", "infinity", "nan"]) (h : Spells word sign cs) :
    ∃ letters, letters.map Char.toLower = word.toList ∧
      readLiteral f cs = readUnsigned f (sign = ['-']) letters ∧ Decimal.read letters = none := by
  obtain ⟨hsign, letters, rfl, hletters⟩ := h
  refine ⟨letters, hletters, ?_⟩
  cases letters with
  | nil =>
    simp only [List.mem_cons, List.not_mem_nil, or_false] at hword
    rcases hword with rfl | rfl | rfl <;> exact absurd hletters (by decide)
  | cons c ds =>
    have hfirst : c.toLower = 'i' ∨ c.toLower = 'n' := by
      have hhead := congrArg List.head? hletters
      rw [List.map_cons, List.head?_cons] at hhead
      simp only [List.mem_cons, List.not_mem_nil, or_false] at hword
      rcases hword with rfl | rfl | rfl
      · exact .inl (Option.some.inj hhead)
      · exact .inl (Option.some.inj hhead)
      · exact .inr (Option.some.inj hhead)
    have hc := not_isLiteralChar_of_toLower hfirst
    refine ⟨readLiteral_signed hsign ?_ ?_, read_word_eq_none hc⟩
    · rintro rfl
      exact hc (by simp [Decimal.IsLiteralChar])
    · rintro rfl
      exact hc (by simp [Decimal.IsLiteralChar])

theorem readLiteral_infinity (h : Spells "inf" sign cs ∨ Spells "infinity" sign cs) :
    readLiteral f cs = .ok (infinity (sign = ['-'])) := by
  obtain ⟨letters, hletters, hread, hnone⟩ : ∃ letters,
      (letters.map Char.toLower = "inf".toList ∨ letters.map Char.toLower = "infinity".toList) ∧
        readLiteral f cs = readUnsigned f (sign = ['-']) letters ∧ Decimal.read letters = none := by
    rcases h with h | h
    · obtain ⟨letters, hletters, hrest⟩ := readLiteral_word (by decide) h
      exact ⟨letters, .inl hletters, hrest⟩
    · obtain ⟨letters, hletters, hrest⟩ := readLiteral_word (by decide) h
      exact ⟨letters, .inr hletters, hrest⟩
  have hword : readWord f (sign = ['-']) letters = some (infinity (sign = ['-'])) := if_pos hletters
  rw [hread, readUnsigned, hnone, hword]

theorem readLiteral_nan_word (h : Spells "nan" sign cs) : ∃ a, readLiteral f cs = .ok a ∧ a.isNaN := by
  obtain ⟨letters, hletters, hread, hnone⟩ := readLiteral_word (f := f) (by decide) h
  have hword : readWord f (sign = ['-']) letters = some { (nan : Binary f) with negative := sign = ['-'] } := by
    unfold readWord
    rw [if_neg (by rw [show letters.map foldCase = letters.map Char.toLower from rfl, hletters]; decide)]
    exact if_pos hletters
  refine ⟨{ (nan : Binary f) with negative := sign = ['-'] }, ?_, nan_isNaN⟩
  rw [hread, readUnsigned, hnone, hword]

/-- The reader accepts the literals and nothing else. -/
theorem readLiteral_isOk_iff : (∃ a, readLiteral f cs = .ok a) ↔ IsLiteral cs := by
  constructor
  · rintro ⟨a, ha⟩
    obtain ⟨sign, hsign, body, rfl, hbody⟩ := exists_readUnsigned ha
    cases hread : Decimal.read body with
    | some d =>
      obtain ⟨l, rfl, rfl⟩ := DecimalLiteral.exists_of_read hread hsign
      exact .inl ⟨l, rfl⟩
    | none =>
      rw [readUnsigned, hread] at hbody
      unfold readWord at hbody
      simp only at hbody
      split at hbody
      · next hword =>
        split at hword
        · next hinf =>
          rcases hinf with hinf | hinf
          · exact .inr ⟨"inf", by decide, sign, hsign, body, rfl, hinf⟩
          · exact .inr ⟨"infinity", by decide, sign, hsign, body, rfl, hinf⟩
        · split at hword
          · next hnan => exact .inr ⟨"nan", by decide, sign, hsign, body, rfl, hnan⟩
          · cases hword
      · cases hbody
  · rintro (⟨l, rfl⟩ | ⟨word, hword, sign, h⟩)
    · exact ⟨_, readLiteral_text l⟩
    · simp only [List.mem_cons, List.not_mem_nil, or_false] at hword
      rcases hword with rfl | rfl | rfl
      · exact ⟨_, readLiteral_infinity (.inl h)⟩
      · exact ⟨_, readLiteral_infinity (.inr h)⟩
      · obtain ⟨a, ha, -⟩ := readLiteral_nan_word (f := f) h
        exact ⟨a, ha⟩

/-- What is read is the number that the literal denotes. -/
theorem denotes_of_readLiteral (h : readLiteral f cs = .ok a) : Denotes cs a where
  sign l hl := by
    rw [hl, readLiteral_text] at h
    cases h
    rfl
  rounds_counted l hl := by
    rw [hl, readLiteral_text] at h
    cases h
    exact Decimal.rounds_toBinary l.negative (l.decimal _)
  rounds l hl hfull := by
    rw [hl, readLiteral_text, hfull.toBinary_eq] at h
    cases h
    exact Decimal.rounds_toBinary l.negative (l.decimal _)
  infinite sign hword := by
    rw [readLiteral_infinity hword] at h
    cases h
    rfl
  nan sign hword := by
    obtain ⟨b, hb, hnan⟩ := readLiteral_nan_word (f := f) hword
    rw [hb] at h
    cases h
    exact hnan

end Binary

end PointSum.Number
