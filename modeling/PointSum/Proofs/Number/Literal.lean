import Mathlib.Data.List.TakeWhile
import PointSum.Number.Decimal
import PointSum.Proofs.Number.Word

/-!
# The written form of decimal numbers

* `Scaled cs n` : `cs` is what may follow the digits, nothing or the letter `e` and an exponent, and scales by the
  power `n` of ten; `readScale_eq_some_iff` : the reader of scales accepts these texts;
* `read_eq_some_iff` : the reader of decimal numbers accepts digits with at most one point among them, at least one
  digit, and a scale;
* `Decimal.ne_sign_of_read`, `Decimal.mem_of_read` : which characters such a text starts with and holds.
-/

namespace PointSum.Number

set_option autoImplicit false

/-- The text does not go on with a digit. -/
def NoDigitAhead (cs : List Char) : Prop := ∀ c ∈ cs.head?, isDigit c = false

section

variable {c : Char} {cs ds rest : List Char}

theorem takeWhile_isDigit (hds : Digits ds) (hrest : NoDigitAhead rest) :
    (ds ++ rest).takeWhile isDigit = ds := by
  rw [List.takeWhile_append_of_pos hds]
  cases rest with
  | nil => simp
  | cons c cs => simp [hrest c rfl]

theorem dropWhile_isDigit (hds : Digits ds) (hrest : NoDigitAhead rest) :
    (ds ++ rest).dropWhile isDigit = rest := by
  rw [List.dropWhile_append_of_pos hds]
  cases rest with
  | nil => simp
  | cons c cs => simp [hrest c rfl]

theorem digits_takeWhile (cs : List Char) : Digits (cs.takeWhile isDigit) :=
  fun _ hc => List.mem_takeWhile_imp hc

end

namespace Decimal

variable {c : Char} {cs ds rest : List Char} {n : Int}

/-! ## Scales -/

/-- The text is nothing, or the letter `e` and an exponent that has a sign or not, and stands for the exponent. -/
def Scaled (cs : List Char) (n : Int) : Prop :=
  cs = [] ∧ n = 0 ∨ ∃ c sign ds, (c = 'e' ∨ c = 'E') ∧ sign ∈ [[], ['+'], ['-']] ∧ ds ≠ [] ∧ Digits ds ∧
    cs = c :: (sign ++ ds) ∧ n = onSide (sign = ['-']) (appendExponent 0 ds)

theorem readExponentDigits_eq_some_iff {k : Nat} :
    readExponentDigits ds = some k ↔ ds ≠ [] ∧ Digits ds ∧ k = appendExponent 0 ds := by
  unfold readExponentDigits
  simp only [List.all_eq_true]
  split
  · next h =>
    simp only [Option.some.injEq]
    exact ⟨fun hk => ⟨h.1, h.2, hk.symm⟩, fun hk => hk.2.2.symm⟩
  · next h =>
    constructor
    · intro hk
      cases hk
    · rintro ⟨hne, hds, -⟩
      exact absurd ⟨hne, hds⟩ h

theorem readExponent_cons (c : Char) (cs : List Char) : readExponent (c :: cs) =
    if c = '-' then (readExponentDigits cs).map (onSide true)
    else if c = '+' then (readExponentDigits cs).map (onSide false)
    else (readExponentDigits (c :: cs)).map (onSide false) := by
  rw [readExponent]
  split
  · cases readExponentDigits cs <;> rfl
  · split
    · cases readExponentDigits cs <;> rfl
    · cases readExponentDigits (c :: cs) <;> rfl

theorem readExponent_eq_some_iff : readExponent cs = some n ↔
    ∃ sign ds, sign ∈ [[], ['+'], ['-']] ∧ ds ≠ [] ∧ Digits ds ∧ cs = sign ++ ds ∧
      n = onSide (sign = ['-']) (appendExponent 0 ds) := by
  constructor
  · intro h
    cases cs with
    | nil => cases h
    | cons c cs =>
      rw [readExponent_cons] at h
      by_cases hminus : c = '-'
      · rw [if_pos hminus] at h
        obtain ⟨k, hk, rfl⟩ := Option.map_eq_some_iff.1 h
        obtain ⟨hne, hcs, rfl⟩ := readExponentDigits_eq_some_iff.1 hk
        exact ⟨['-'], cs, by simp, hne, hcs, by rw [hminus]; rfl, rfl⟩
      · rw [if_neg hminus] at h
        by_cases hplus : c = '+'
        · rw [if_pos hplus] at h
          obtain ⟨k, hk, rfl⟩ := Option.map_eq_some_iff.1 h
          obtain ⟨hne, hcs, rfl⟩ := readExponentDigits_eq_some_iff.1 hk
          exact ⟨['+'], cs, by simp, hne, hcs, by rw [hplus]; rfl, rfl⟩
        · rw [if_neg hplus] at h
          obtain ⟨k, hk, rfl⟩ := Option.map_eq_some_iff.1 h
          obtain ⟨hne, hcs, rfl⟩ := readExponentDigits_eq_some_iff.1 hk
          exact ⟨[], c :: cs, by simp, hne, hcs, rfl, rfl⟩
  · rintro ⟨sign, ds, hsign, hne, hds, rfl, rfl⟩
    have hread := readExponentDigits_eq_some_iff.2 ⟨hne, hds, rfl⟩
    simp only [List.mem_cons, List.not_mem_nil, or_false] at hsign
    rcases hsign with rfl | rfl | rfl
    · obtain ⟨d, es, rfl⟩ := List.exists_cons_of_ne_nil hne
      have hd := (digits_cons.1 hds).1
      rw [List.nil_append, readExponent_cons, if_neg (by rintro rfl; exact absurd hd (by decide)),
        if_neg (by rintro rfl; exact absurd hd (by decide)), hread]
      rfl
    · rw [List.singleton_append, readExponent_cons, if_neg (by decide), if_pos rfl, hread]
      rfl
    · rw [List.singleton_append, readExponent_cons, if_pos rfl, hread]
      rfl

theorem readScale_eq_some_iff : readScale cs = some n ↔ Scaled cs n := by
  unfold Scaled
  cases cs with
  | nil => simp [readScale, eq_comm]
  | cons c cs =>
    rw [readScale]
    constructor
    · intro h
      split at h
      · next hc =>
        obtain ⟨sign, ds, hsign, hne, hds, rfl, hn⟩ := readExponent_eq_some_iff.1 h
        exact .inr ⟨c, sign, ds, hc, hsign, hne, hds, rfl, hn⟩
      · cases h
    · rintro (⟨h, -⟩ | ⟨c', sign, ds, hc, hsign, hne, hds, hcs, hn⟩)
      · cases h
      · obtain ⟨rfl, rfl⟩ := List.cons.inj hcs
        rw [if_pos hc, readExponent_eq_some_iff]
        exact ⟨sign, ds, hsign, hne, hds, rfl, hn⟩

/-- A scale starts with neither a digit nor a point. -/
theorem Scaled.head (h : Scaled cs n) (hc : c ∈ cs.head?) : isDigit c = false ∧ c ≠ '.' := by
  rcases h with ⟨rfl, -⟩ | ⟨d, sign, ds, hd, -, -, -, rfl, -⟩
  · cases hc
  · obtain rfl := Option.some.inj hc
    rcases hd with rfl | rfl <;> decide

/-! ## Numbers -/

/-- The reader accepts digits, behind or around a point or without one, that a scale may follow. -/
theorem read_eq_some_iff {d : Decimal} : read cs = some d ↔
    ∃ whole fraction rest scale, (cs = whole ++ rest ∧ fraction = [] ∨ cs = whole ++ '.' :: (fraction ++ rest)) ∧
      Digits whole ∧ Digits fraction ∧ (whole ≠ [] ∨ fraction ≠ []) ∧ Scaled rest scale ∧
      d = ⟨ofDigits (whole ++ fraction), scale - fraction.length⟩ := by
  constructor
  · intro h
    unfold read at h
    have happ := List.takeWhile_append_dropWhile (p := isDigit) (l := cs)
    generalize hwhole : cs.takeWhile isDigit = whole at h happ
    generalize cs.dropWhile isDigit = after at h happ
    have hdigits : Digits whole := hwhole ▸ digits_takeWhile cs
    by_cases hpoint : after.head? = some '.'
    · simp only [hpoint, if_true] at h
      split at h
      · cases h
      · next hne =>
        obtain ⟨scale, hscale, rfl⟩ := Option.map_eq_some_iff.1 h
        obtain ⟨after', rfl⟩ : ∃ after', after = '.' :: after' := by
          cases after with
          | nil => cases hpoint
          | cons c cs => exact ⟨cs, by rw [Option.some.inj hpoint]⟩
        refine ⟨whole, _, _, scale, .inr ?_, hdigits, digits_takeWhile after', by tauto,
          readScale_eq_some_iff.1 hscale, rfl⟩
        rw [List.tail_cons, List.takeWhile_append_dropWhile, happ]
    · simp only [hpoint, if_false] at h
      split at h
      · cases h
      · next hne =>
        obtain ⟨scale, hscale, rfl⟩ := Option.map_eq_some_iff.1 h
        exact ⟨whole, [], after, scale, .inl ⟨happ.symm, rfl⟩, hdigits, Digits.nil, by tauto,
          readScale_eq_some_iff.1 hscale, rfl⟩
  · rintro ⟨whole, fraction, rest, scale, hcs, hwhole, hfraction, hne, hscale, rfl⟩
    have hread := readScale_eq_some_iff.2 hscale
    have hrest : NoDigitAhead rest := fun c hc => (hscale.head hc).1
    unfold read
    rcases hcs with ⟨rfl, rfl⟩ | rfl
    · have hpoint : rest.head? ≠ some '.' := fun h => (hscale.head h).2 rfl
      have hne' : whole ≠ [] := by simpa using hne
      simp [takeWhile_isDigit hwhole hrest, dropWhile_isDigit hwhole hrest, hpoint, hne', hread]
    · have hdot : NoDigitAhead ('.' :: (fraction ++ rest)) := by
        rintro c ⟨⟩
        decide
      have hne' : ¬ (whole = [] ∧ fraction = []) := by tauto
      simp [takeWhile_isDigit hwhole hdot, dropWhile_isDigit hwhole hdot, takeWhile_isDigit hfraction hrest,
        dropWhile_isDigit hfraction hrest, hne', hread]

/-- Without a point. -/
theorem read_whole (hds : Digits ds) (hne : ds ≠ []) (hscale : Scaled rest n) :
    read (ds ++ rest) = some ⟨ofDigits ds, n⟩ := by
  rw [read_eq_some_iff]
  exact ⟨ds, [], rest, n, .inl ⟨rfl, rfl⟩, hds, Digits.nil, .inl hne, hscale, by simp⟩

/-- With a point. -/
theorem read_pointed {whole fraction : List Char} (hwhole : Digits whole) (hfraction : Digits fraction)
    (hne : whole ≠ []) (hscale : Scaled rest n) :
    read (whole ++ '.' :: (fraction ++ rest)) = some ⟨ofDigits (whole ++ fraction), n - fraction.length⟩ := by
  rw [read_eq_some_iff]
  exact ⟨whole, fraction, rest, n, .inr rfl, hwhole, hfraction, .inl hne, hscale, rfl⟩

/-! ## Characters -/

/-- The characters of a decimal literal. -/
def IsLiteralChar (c : Char) : Prop := isDigit c ∨ c ∈ ['.', 'e', 'E', '+', '-']

theorem Scaled.mem (h : Scaled cs n) (hc : c ∈ cs) : IsLiteralChar c := by
  rcases h with ⟨rfl, -⟩ | ⟨d, sign, ds, hd, hsign, -, hds, rfl, -⟩
  · cases hc
  · simp only [List.mem_cons, List.mem_append, List.not_mem_nil, or_false] at hc hsign
    rcases hc with rfl | hc | hc
    · rcases hd with rfl | rfl <;> simp [IsLiteralChar]
    · rcases hsign with rfl | rfl | rfl
      · cases hc
      · simp [IsLiteralChar, List.mem_singleton.1 hc]
      · simp [IsLiteralChar, List.mem_singleton.1 hc]
    · exact .inl (hds c hc)

theorem mem_of_read {d : Decimal} (h : read cs = some d) (hc : c ∈ cs) : IsLiteralChar c := by
  obtain ⟨whole, fraction, rest, scale, hcs, hwhole, hfraction, -, hscale, -⟩ := read_eq_some_iff.1 h
  rcases hcs with ⟨rfl, rfl⟩ | rfl
  · rcases List.mem_append.1 hc with hc | hc
    · exact .inl (hwhole c hc)
    · exact hscale.mem hc
  · simp only [List.mem_append, List.mem_cons] at hc
    rcases hc with hc | rfl | hc | hc
    · exact .inl (hwhole c hc)
    · simp [IsLiteralChar]
    · exact .inl (hfraction c hc)
    · exact hscale.mem hc

/-- A decimal number does not start with a sign. -/
theorem ne_sign_of_read {d : Decimal} (h : read cs = some d) : ∃ c ds, cs = c :: ds ∧ c ≠ '+' ∧ c ≠ '-' := by
  have hdigit : ∀ {e : Char}, isDigit e → e ≠ '+' ∧ e ≠ '-' := by
    intro e he
    constructor <;>
    · rintro rfl
      exact absurd he (by decide)
  obtain ⟨whole, fraction, rest, scale, hcs, hwhole, hfraction, hne, hscale, -⟩ := read_eq_some_iff.1 h
  cases whole with
  | cons e es =>
    rcases hcs with ⟨rfl, -⟩ | rfl
    · exact ⟨e, _, rfl, hdigit (hwhole e List.mem_cons_self)⟩
    · exact ⟨e, _, rfl, hdigit (hwhole e List.mem_cons_self)⟩
  | nil =>
    rcases hcs with ⟨-, rfl⟩ | rfl
    · simp at hne
    · exact ⟨'.', _, rfl, by decide, by decide⟩

end Decimal

end PointSum.Number
