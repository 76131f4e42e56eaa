import PointSum.Point.Reading
import PointSum.Proofs.Number.Word
import PointSum.Proofs.Text.Trim

/-!
# The written form of points

* `Unwrapped core inner` : `inner` is `core` without the pair of parentheses around it, if there is one;
* `Written cs x y` : `cs` is the text of a pair whose coordinates are written `x` and `y`;
* `coordinateTexts_eq_some_iff` : the reader finds the coordinates of the written pairs and of nothing else;
* `read_word_eq_ok_iff` : over the words of a format these are pairs of numerals, whose text has one comma, no
  parentheses but an enclosing pair, and a coordinate on either side of the comma; `read_text_word` : the text of a
  point of words is read as the point.
-/

namespace PointSum

set_option autoImplicit false

open Text Number

/-- The text without the parentheses that enclose it, or the text itself where no pair does. -/
def Unwrapped (core inner : List Char) : Prop :=
  core = '(' :: (inner ++ [')']) ∨ inner = core ∧ ∀ mid, core ≠ '(' :: (mid ++ [')'])

/-- The text is a pair: between blank ends and inside parentheses or not, the texts of two coordinates around a
comma, with blank characters around each. -/
def Written (cs x y : List Char) : Prop :=
  ∃ u core v inner, Blanks u ∧ Blanks v ∧ cs = u ++ core ++ v ∧ Tight core ∧ Unwrapped core inner ∧
    ∃ w₁ w₂ w₃ w₄, Blanks w₁ ∧ Blanks w₂ ∧ Blanks w₃ ∧ Blanks w₄ ∧
      inner = (w₁ ++ x ++ w₂) ++ ',' :: (w₃ ++ y ++ w₄)

variable {cs core inner x y : List Char} {c : Char}

/-! ## Parentheses -/

theorem unwrapped_unwrapParentheses (cs : List Char) : Unwrapped cs (unwrapParentheses cs) := by
  unfold unwrapParentheses
  split
  · next inner =>
    split
    · next hlast =>
      left
      rw [List.dropLast_append_getLast? _ hlast]
    · next hlast =>
      refine .inr ⟨rfl, fun mid hmid => hlast ?_⟩
      rw [(List.cons.inj hmid).2, List.getLast?_concat]
  · next hparen => exact .inr ⟨rfl, fun mid hmid => hparen _ hmid⟩

theorem Unwrapped.eq (h : Unwrapped cs inner) : unwrapParentheses cs = inner := by
  rcases h with rfl | ⟨rfl, hmid⟩
  · simp [unwrapParentheses]
  · rcases unwrapped_unwrapParentheses inner with h | ⟨h, -⟩
    · exact absurd h (hmid _)
    · exact h

/-- Inside the parentheses is what the text holds besides them. -/
theorem Unwrapped.count_eq (h : Unwrapped core inner) (hl : c ≠ '(') (hr : c ≠ ')') :
    inner.count c = core.count c := by
  rcases h with rfl | ⟨rfl, -⟩
  · simp [Ne.symm hl, Ne.symm hr]
  · rfl

/-! ## The comma -/

theorem splitAtComma_eq_some_iff : splitAtComma cs = some (x, y) ↔ cs = x ++ ',' :: y ∧ ',' ∉ x := by
  unfold splitAtComma
  constructor
  · intro h
    have happ := List.takeWhile_append_dropWhile (p := (· ≠ ',')) (l := cs)
    split at h
    · cases h
    · next d after hd =>
      obtain ⟨rfl, rfl⟩ := Prod.mk.inj (Option.some.inj h)
      have hcomma := List.head?_dropWhile_not (· ≠ ',') cs
      rw [hd] at hcomma happ
      have hd' : d = ',' := by simpa using hcomma
      subst hd'
      refine ⟨happ.symm, fun hmem => ?_⟩
      have := List.mem_takeWhile_imp hmem
      simp at this
  · rintro ⟨rfl, hx⟩
    have hne : ∀ c ∈ x, decide (c ≠ ',') = true := by
      intro c hc
      have : c ≠ ',' := fun h => hx (h ▸ hc)
      simpa using this
    rw [List.dropWhile_append_of_pos hne, List.takeWhile_append_of_pos hne]
    simp

/-! ## Pairs -/

theorem coordinateTexts_eq_some_iff :
    coordinateTexts cs = some (x, y) ↔ Written cs x y ∧ Tight x ∧ Tight y ∧ ',' ∉ x := by
  unfold coordinateTexts
  rw [Option.map_eq_some_iff]
  constructor
  · rintro ⟨⟨a, b⟩, hsplit, hab⟩
    obtain ⟨rfl, rfl⟩ := Prod.mk.inj hab
    obtain ⟨hinner, ha⟩ := splitAtComma_eq_some_iff.1 hsplit
    obtain ⟨u, v, hu, hv, hcs⟩ := exists_trim cs
    obtain ⟨w₁, w₂, hw₁, hw₂, hx⟩ := exists_trim a
    obtain ⟨w₃, w₄, hw₃, hw₄, hy⟩ := exists_trim b
    refine ⟨⟨u, trim cs, v, _, hu, hv, hcs, trim_tight cs, unwrapped_unwrapParentheses _,
      w₁, w₂, w₃, w₄, hw₁, hw₂, hw₃, hw₄, ?_⟩, trim_tight a, trim_tight b, fun hmem => ha ?_⟩
    · rw [hinner, ← hx, ← hy]
    · rw [hx]
      exact List.mem_append_left _ (List.mem_append_right _ hmem)
  · rintro ⟨⟨u, core, v, inner, hu, hv, rfl, hcore, hinner, w₁, w₂, w₃, w₄, hw₁, hw₂, hw₃, hw₄, rfl⟩, hx, hy, hcomma⟩
    have hblank : isBlank ',' = false := by decide
    refine ⟨(w₁ ++ x ++ w₂, w₃ ++ y ++ w₄), ?_, ?_⟩
    · rw [trim_append hu hv, trim_of_tight hcore, hinner.eq, splitAtComma_eq_some_iff]
      simp [hw₁.not_mem hblank, hw₂.not_mem hblank, hcomma]
    · simp only [trim_append hw₁ hw₂, trim_append hw₃ hw₄, trim_of_tight hx, trim_of_tight hy]

/-- Besides the coordinates a pair holds a comma, and else only blank characters and parentheses. -/
theorem Written.mem (h : Written cs x y) :
    ',' ∈ cs ∧ ∀ c ∈ cs, isBlank c ∨ c ∈ ['(', ')', ','] ∨ c ∈ x ∨ c ∈ y := by
  obtain ⟨u, core, v, inner, hu, hv, rfl, -, hinner, w₁, w₂, w₃, w₄, hw₁, hw₂, hw₃, hw₄, rfl⟩ := h
  have hcore : ∀ c ∈ core, c ∈ ['(', ')', ','] ∨ c ∈ w₁ ++ x ++ w₂ ∨ c ∈ w₃ ++ y ++ w₄ := by
    intro c hc
    rcases hinner with rfl | ⟨rfl, -⟩
    · grind
    · grind
  have hmem : ',' ∈ core := by
    rcases hinner with rfl | ⟨rfl, -⟩
    · simp
    · simp
  constructor
  · exact List.mem_append_left _ (List.mem_append_right _ hmem)
  · intro c hc
    simp only [List.mem_append] at hc hcore
    rcases hc with (hc | hc) | hc
    · exact .inl (hu c hc)
    · rcases hcore c hc with h | ((h | h) | h) | ((h | h) | h)
      · exact .inr (.inl h)
      · exact .inl (hw₁ c h)
      · exact .inr (.inr (.inl h))
      · exact .inl (hw₂ c h)
      · exact .inl (hw₃ c h)
      · exact .inr (.inr (.inr h))
      · exact .inl (hw₄ c h)
    · exact .inl (hv c hc)

/-- Two texts without commas and blank characters, written as a point is written. -/
theorem coordinateTexts_pair (hx : ∀ c ∈ x, isBlank c = false ∧ c ≠ ',') (hy : ∀ c ∈ y, isBlank c = false) :
    coordinateTexts (['('] ++ x ++ [',', ' '] ++ y ++ [')']) = some (x, y) := by
  have htight : Tight (['('] ++ x ++ [',', ' '] ++ y ++ [')']) := by
    constructor
    · rintro c ⟨⟩
      decide
    · intro c hc
      rw [List.getLast?_concat] at hc
      rw [← Option.some.inj hc]
      decide
  have hspace : Blanks [' '] := by
    intro c hc
    rw [List.mem_singleton.1 hc]
    decide
  refine coordinateTexts_eq_some_iff.2 ⟨⟨[], ['('] ++ x ++ [',', ' '] ++ y ++ [')'], [], x ++ [',', ' '] ++ y,
    Blanks.nil, Blanks.nil, by simp, htight, .inl (by simp), [], [], [' '], [], Blanks.nil, Blanks.nil, hspace,
    Blanks.nil, by simp⟩, tight_of_forall fun c hc => (hx c hc).1, tight_of_forall hy, fun h => (hx _ h).2 rfl⟩

/-- Two texts around a comma, without parentheses around them. -/
theorem coordinateTexts_bare (hx : ∀ c ∈ x, isBlank c = false ∧ c ≠ ',') (hopen : '(' ∉ x)
    (hy : ∀ c ∈ y, isBlank c = false) : coordinateTexts (x ++ ',' :: y) = some (x, y) := by
  have htight : Tight (x ++ ',' :: y) := by
    refine tight_of_forall fun c hc => ?_
    rcases List.mem_append.1 hc with hc | hc
    · exact (hx c hc).1
    · rcases List.mem_cons.1 hc with rfl | hc
      · decide
      · exact hy c hc
  have hbare : ∀ mid, x ++ ',' :: y ≠ '(' :: (mid ++ [')']) := by
    intro mid hmid
    cases x with
    | nil => cases hmid
    | cons c cs =>
      obtain ⟨rfl, -⟩ := List.cons.inj hmid
      exact hopen List.mem_cons_self
  exact coordinateTexts_eq_some_iff.2 ⟨⟨[], x ++ ',' :: y, [], x ++ ',' :: y, Blanks.nil, Blanks.nil, by simp, htight,
    .inr ⟨rfl, hbare⟩, [], [], [], [], Blanks.nil, Blanks.nil, Blanks.nil, Blanks.nil, by simp⟩,
    tight_of_forall fun c hc => (hx c hc).1, tight_of_forall hy, fun hc => (hx _ hc).2 rfl⟩

theorem read_eq_ok_iff {α : Type} [Scalar α] {raw : String} {p : Point α} :
    Point.read α raw = .ok p ↔
      ∃ x y, coordinateTexts raw.toList = some (x, y) ∧ Scalar.read x = .ok p.x ∧ Scalar.read y = .ok p.y := by
  unfold Point.read
  cases hxy : coordinateTexts raw.toList with
  | none => simp
  | some xy =>
    obtain ⟨x, y⟩ := xy
    simp only [Option.some.injEq, Prod.mk.injEq]
    constructor
    · intro h
      refine ⟨x, y, ⟨rfl, rfl⟩, ?_⟩
      cases hx : Scalar.read (α := α) x with
      | error e => simp [hx] at h
      | ok a =>
        cases hy : Scalar.read (α := α) y with
        | error e => simp [hx, hy] at h
        | ok b =>
          simp only [hx, hy, Except.ok.injEq] at h
          rw [← h]
          exact ⟨rfl, rfl⟩
    · rintro ⟨_, _, ⟨rfl, rfl⟩, hx, hy⟩
      simp only [hx, hy]

/-- A pair of texts that are read as scalars, written as a point is written, is read as their point. -/
theorem read_pair {α : Type} [Scalar α] {a b : α} (hx : ∀ c ∈ x, isBlank c = false ∧ c ≠ ',')
    (hy : ∀ c ∈ y, isBlank c = false) (ha : Scalar.read x = .ok a) (hb : Scalar.read y = .ok b) :
    Point.read α (.ofList (['('] ++ x ++ [',', ' '] ++ y ++ [')'])) = .ok ⟨a, b⟩ := by
  rw [read_eq_ok_iff, String.toList_ofList]
  exact ⟨x, y, coordinateTexts_pair hx hy, ha, hb⟩

/-- Blank characters around a point do not matter. -/
theorem coordinateTexts_append {u v : List Char} (hu : Blanks u) (hv : Blanks v) :
    coordinateTexts (u ++ cs ++ v) = coordinateTexts cs := by
  unfold coordinateTexts
  rw [trim_append hu hv]

theorem read_append {α : Type} [Scalar α] {u v : List Char} (hu : Blanks u) (hv : Blanks v) {p : Point α}
    (h : Point.read α (.ofList cs) = .ok p) : Point.read α (.ofList (u ++ cs ++ v)) = .ok p := by
  rw [read_eq_ok_iff, String.toList_ofList] at h ⊢
  rwa [coordinateTexts_append hu hv]

/-! ## Pairs of numerals -/

section Numerals

variable {f : WordFormat} {m n : Int}

namespace Number

theorem isBlank_of_isDigit (h : isDigit c) : isBlank c = false := by
  rw [isDigit_iff] at h
  simp only [isBlank, Bool.or_eq_false_iff, Bool.and_eq_false_iff, decide_eq_false_iff_not, beq_eq_false_iff_ne]
  omega

/-- A numeral holds no blank character, no comma and no parenthesis. -/
theorem Numeral.mem_ne (h : Numeral f x n) (hc : c ∈ x) : isBlank c = false ∧ c ≠ ',' ∧ c ≠ '(' ∧ c ≠ ')' := by
  rcases h.isDigit_or_sign hc with hd | rfl | rfl
  · refine ⟨isBlank_of_isDigit hd, ?_, ?_, ?_⟩ <;>
    · rintro rfl
      exact absurd hd (by decide)
  · decide
  · decide

theorem Numeral.tight (h : Numeral f x n) : Tight x := tight_of_forall fun _ hc => (h.mem_ne hc).1

theorem Numeral.not_mem_comma (h : Numeral f x n) : ',' ∉ x := fun hc => (h.mem_ne hc).2.1 rfl

end Number

/-- The text of two numerals has one comma, a coordinate on either side of it, and no parenthesis besides an
enclosing pair. -/
theorem Written.shape (h : Written cs x y) (hx : Numeral f x m) (hy : Numeral f y n) :
    cs.count ',' = 1 ∧ ∃ a b, Unwrapped (trim cs) (a ++ ',' :: b) ∧ ¬ Blanks a ∧ ¬ Blanks b ∧
      '(' ∉ a ++ ',' :: b ∧ ')' ∉ a ++ ',' :: b := by
  obtain ⟨u, core, v, inner, hu, hv, rfl, hcore, hinner, w₁, w₂, w₃, w₄, hw₁, hw₂, hw₃, hw₄, rfl⟩ := h
  have hcomma : isBlank ',' = false := by decide
  have hopen : isBlank '(' = false := by decide
  have hclose : isBlank ')' = false := by decide
  refine ⟨?_, _, _, (trim_append hu hv).symm ▸ (trim_of_tight hcore).symm ▸ hinner, ?_, ?_, ?_, ?_⟩
  · rw [List.count_append, List.count_append, ← hinner.count_eq (by decide) (by decide)]
    simp [List.count_eq_zero_of_not_mem, hu.not_mem hcomma, hv.not_mem hcomma, hw₁.not_mem hcomma,
      hw₂.not_mem hcomma, hw₃.not_mem hcomma, hw₄.not_mem hcomma, hx.not_mem_comma, hy.not_mem_comma]
  · intro hb
    obtain ⟨c, hc⟩ := List.exists_mem_of_ne_nil x hx.ne_nil
    have := hb c (by simp [hc])
    rw [(hx.mem_ne hc).1] at this
    cases this
  · intro hb
    obtain ⟨c, hc⟩ := List.exists_mem_of_ne_nil y hy.ne_nil
    have := hb c (by simp [hc])
    rw [(hy.mem_ne hc).1] at this
    cases this
  · simp [hw₁.not_mem hopen, hw₂.not_mem hopen, hw₃.not_mem hopen, hw₄.not_mem hopen,
      show '(' ∉ x from fun hc => (hx.mem_ne hc).2.2.1 rfl, show '(' ∉ y from fun hc => (hy.mem_ne hc).2.2.1 rfl]
  · simp [hw₁.not_mem hclose, hw₂.not_mem hclose, hw₃.not_mem hclose, hw₄.not_mem hclose,
      show ')' ∉ x from fun hc => (hx.mem_ne hc).2.2.2 rfl, show ')' ∉ y from fun hc => (hy.mem_ne hc).2.2.2 rfl]

theorem read_word_eq_ok_iff {raw : String} {p : Point (Word f)} :
    Point.read (Word f) raw = .ok p ↔
      ∃ x y, Written raw.toList x y ∧ Numeral f x p.x.toInt ∧ Numeral f y p.y.toInt := by
  rw [read_eq_ok_iff]
  constructor
  · rintro ⟨x, y, hxy, hx, hy⟩
    exact ⟨x, y, (coordinateTexts_eq_some_iff.1 hxy).1, Word.read_eq_ok_iff.1 hx, Word.read_eq_ok_iff.1 hy⟩
  · rintro ⟨x, y, hxy, hx, hy⟩
    exact ⟨x, y, coordinateTexts_eq_some_iff.2 ⟨hxy, hx.tight, hy.tight, hx.not_mem_comma⟩,
      Word.read_eq_ok_iff.2 hx, Word.read_eq_ok_iff.2 hy⟩

theorem read_text_word (p : Point (Word f)) : Point.read (Word f) p.text = .ok p :=
  read_pair (fun _ hc => ⟨(p.x.numeral_text.mem_ne hc).1, (p.x.numeral_text.mem_ne hc).2.1⟩)
    (fun _ hc => (p.y.numeral_text.mem_ne hc).1) (Word.read_eq_ok_iff.2 p.x.numeral_text)
    (Word.read_eq_ok_iff.2 p.y.numeral_text)

/-- A text is read as the point of two integers if and only if it is a pair of numerals for them. So a text that is
read has one comma, a coordinate on either side of it and no parenthesis besides an enclosing pair, and zeros in front
of the digits do not count. -/
theorem read_integers_iff (f : WordFormat) (raw : String) :
    (∀ m n : Int, (∃ p, Point.read (Word f) raw = .ok p ∧ p.x.toInt = m ∧ p.y.toInt = n) ↔
      ∃ x y, Written raw.toList x y ∧ Numeral f x m ∧ Numeral f y n) ∧
    (∀ p, Point.read (Word f) raw = .ok p →
      raw.toList.count ',' = 1 ∧ ∃ a b, Unwrapped (trim raw.toList) (a ++ ',' :: b) ∧ ¬ Blanks a ∧ ¬ Blanks b ∧
        '(' ∉ a ++ ',' :: b ∧ ')' ∉ a ++ ',' :: b) ∧
    (∀ sign ∈ [[], ['+'], ['-']], ∀ k ds n, ds ≠ [] → Digits ds →
      (Numeral f (sign ++ (List.replicate k '0' ++ ds)) n ↔ Numeral f (sign ++ ds) n)) := by
  refine ⟨fun m n => ⟨?_, ?_⟩, ?_, fun sign hsign k ds n hne hds => numeral_zeros_iff hsign hne hds k⟩
  · rintro ⟨p, hp, rfl, rfl⟩
    exact read_word_eq_ok_iff.1 hp
  · rintro ⟨x, y, hxy, hx, hy⟩
    have hm : f.Holds m := hx.holds
    have hn : f.Holds n := hy.holds
    refine ⟨⟨⟨BitVec.ofInt f.width m⟩, ⟨BitVec.ofInt f.width n⟩⟩, ?_, Word.toInt_ofInt hm, Word.toInt_ofInt hn⟩
    exact read_word_eq_ok_iff.2 ⟨x, y, hxy, (Word.toInt_ofInt hm).symm ▸ hx, (Word.toInt_ofInt hn).symm ▸ hy⟩
  · intro p hp
    obtain ⟨x, y, hxy, hx, hy⟩ := read_word_eq_ok_iff.1 hp
    exact hxy.shape hx hy

theorem read_integers_padded :
    (Point.read (Word .int8) " (+007 , -128) " = .ok ⟨⟨7#8⟩, ⟨-128#8⟩⟩ ∧
      " (+007 , -128) ".toList.count ',' = 1 ∧
        ∃ a b, Unwrapped (trim " (+007 , -128) ".toList) (a ++ ',' :: b) ∧ ¬ Blanks a ∧ ¬ Blanks b ∧
          '(' ∉ a ++ ',' :: b ∧ ')' ∉ a ++ ',' :: b) ∧
    (['-'] ∈ [[], ['+'], ['-']] ∧ "128".toList ≠ [] ∧ Digits "128".toList ∧
      (Numeral .int8 (['-'] ++ (List.replicate 9 '0' ++ "128".toList)) (-128) ↔
        Numeral .int8 (['-'] ++ "128".toList) (-128))) := by
  have hread : Point.read (Word .int8) " (+007 , -128) " = .ok ⟨⟨7#8⟩, ⟨-128#8⟩⟩ := by decide +kernel
  have hdigits : Digits "128".toList := digits_decimal 128
  obtain ⟨-, hshape, hzeros⟩ := read_integers_iff .int8 " (+007 , -128) "
  exact ⟨⟨hread, hshape _ hread⟩, by decide, by decide, hdigits,
    hzeros ['-'] (by decide) 9 "128".toList (-128) (by decide) hdigits⟩

end Numerals

end PointSum
