import PointSum.Proofs.Text.Terminal
import PointSum.Proofs.Text.Utf8

/-!
# Reading what stands between double quotes

* `Symbol` : a character of a text, or a byte that belongs to none; `symbols bs` : the symbols of a byte string, which
  hold its bytes (`bytes_symbols`);
* `readSymbol` : reads one symbol; `readSymbol_quoted` : no symbol is written as the front of another;
* `quoteSymbols_append_inj` : what is quoted can be told, and so can what follows it; `quote_append_inj`,
  `quoteBytes_inj` : so it is for texts and for byte strings;
* `harmless_quote`, `harmless_quoteBytes` : what is quoted holds no commands.
-/

namespace PointSum.Text

set_option autoImplicit false

variable {c : Char} {cs ds us vs : List Char}

/-! ## Symbols -/

/-- What is written between double quotes. -/
inductive Symbol where
  | character (c : Char)
  /-- A byte that belongs to no character. -/
  | byte (b : UInt8)
  deriving DecidableEq, Repr

variable {as bs : List Symbol}

namespace Symbol

/-- The form of a symbol inside double quotes. -/
def quoted : Symbol → List Char
  | character c => quoteChar c
  | byte b => ['\\', 'x'] ++ hexByte b

/-- The bytes of a symbol. -/
def bytes : Symbol → Bytes
  | character c => String.utf8EncodeChar c
  | byte b => [b]

end Symbol

/-- Symbols between double quotes. -/
def quoteSymbols (as : List Symbol) : List Char :=
  ['"'] ++ as.flatMap Symbol.quoted ++ ['"']

/-- The symbols of a piece of a byte string. -/
def Piece.symbols : Piece → List Symbol
  | .character c => [.character c]
  | .broken bytes => bytes.map .byte

/-- The symbols of a byte string. -/
def symbols (bs : Bytes) : List Symbol :=
  (pieces bs).flatMap Piece.symbols

theorem quote_eq (cs : List Char) : quote cs = quoteSymbols (cs.map .character) := by
  rw [quote, quoteSymbols, List.flatMap_map]
  rfl

theorem quotePiece_eq (p : Piece) : quotePiece p = p.symbols.flatMap Symbol.quoted := by
  cases p with
  | character c => exact (List.append_nil _).symm
  | broken bytes =>
    rw [Piece.symbols, List.flatMap_map]
    rfl

theorem quoteBytes_eq (bs : Bytes) : quoteBytes bs = quoteSymbols (symbols bs) := by
  rw [quoteBytes, quoteSymbols, symbols, List.flatMap_assoc]
  exact congrArg (fun f => ['"'] ++ (pieces bs).flatMap f ++ ['"']) (funext quotePiece_eq)

theorem Piece.bytes_symbols (p : Piece) : p.symbols.flatMap Symbol.bytes = p.bytes := by
  cases p with
  | character c => exact List.append_nil _
  | broken bytes =>
    rw [Piece.symbols, List.flatMap_map]
    exact List.flatMap_singleton' bytes

/-- The symbols of a byte string hold its bytes. -/
theorem bytes_symbols (bs : Bytes) : (symbols bs).flatMap Symbol.bytes = bs := by
  rw [symbols, List.flatMap_assoc]
  simp only [Piece.bytes_symbols]
  exact bytes_pieces bs

theorem symbols_injective : Function.Injective symbols :=
  Function.LeftInverse.injective bytes_symbols

/-! ## Reading -/

/-- The letters that stand for a character behind a backslash, each with its character. -/
def shortEscapes : List (Char × Char) :=
  [('0', '\x00'), ('t', '\t'), ('n', '\n'), ('r', '\r'), ('"', '"'), ('\\', '\\')]

/-- A character is written in one of three ways. -/
theorem quoteChar_cases (c : Char) :
    (∃ e, (e, c) ∈ shortEscapes ∧ quoteChar c = ['\\', e]) ∨ quoteChar c = codePoint c ∨
      quoteChar c = [c] ∧ isPrintable c ∧ c ≠ '"' ∧ c ≠ '\\' := by
  unfold quoteChar
  split_ifs with hnul htab hfeed hreturn hquote hback hspecial
  · exact .inl ⟨'0', by simp [hnul, shortEscapes], rfl⟩
  · exact .inl ⟨'t', by simp [htab, shortEscapes], rfl⟩
  · exact .inl ⟨'n', by simp [hfeed, shortEscapes], rfl⟩
  · exact .inl ⟨'r', by simp [hreturn, shortEscapes], rfl⟩
  · exact .inl ⟨'"', by simp [hquote, shortEscapes], rfl⟩
  · exact .inl ⟨'\\', by simp [hback, shortEscapes], rfl⟩
  · exact .inr (.inl rfl)
  · simp only [Bool.or_eq_true, Bool.not_eq_true', not_or, Bool.not_eq_false] at hspecial
    exact .inr (.inr ⟨rfl, hspecial.2, hquote, hback⟩)

/-- Reads a symbol behind its backslash, and what follows it. -/
def readEscape : List Char → Option (Symbol × List Char)
  | [] => none
  | e :: cs =>
    if e = 'x' then some (.byte (.ofNat (readHex (cs.take 2))), cs.drop 2)
    else if e = 'u' then
      let digits := (cs.drop 1).takeWhile (· ≠ '\x7d')
      some (.character (.ofNat (readHex digits)), cs.drop (digits.length + 2))
    else (shortEscapes.lookup e).map fun c => (.character c, cs)

/-- Reads a symbol, and what follows it. A double quote is no symbol. -/
def readSymbol : List Char → Option (Symbol × List Char)
  | [] => none
  | c :: cs =>
    if c = '"' then none
    else if c = '\\' then readEscape cs
    else some (.character c, cs)

theorem readSymbol_escape (cs : List Char) : readSymbol ('\\' :: cs) = readEscape cs := rfl

theorem readSymbol_byte (b : UInt8) (cs : List Char) :
    readSymbol ((Symbol.byte b).quoted ++ cs) = some (.byte b, cs) := by
  have hvalue : UInt8.ofNat (readHex (hexByte b)) = b := by rw [readHex_hexByte, UInt8.ofNat_toNat]
  exact congrArg (fun a => some (Symbol.byte a, cs)) hvalue

theorem readEscape_short {e : Char} (h : (e, c) ∈ shortEscapes) (cs : List Char) :
    readEscape (e :: cs) = some (.character c, cs) := by
  simp only [shortEscapes, List.mem_cons, Prod.mk.injEq, List.not_mem_nil, or_false] at h
  rcases h with ⟨rfl, rfl⟩ | ⟨rfl, rfl⟩ | ⟨rfl, rfl⟩ | ⟨rfl, rfl⟩ | ⟨rfl, rfl⟩ | ⟨rfl, rfl⟩ <;> rfl

theorem hexDigits_ne_brace (n : Nat) : ∀ c ∈ hexDigits n, c ≠ '\x7d' := by
  have hall : ∀ d < 16, hexDigit d ≠ '\x7d' := by decide
  intro c hc
  obtain ⟨d, hd, rfl⟩ := mem_hexDigits hc
  exact hall d hd

/-- The brace behind the digits of a code point says where they end. -/
theorem readSymbol_codePoint (c : Char) (cs : List Char) :
    readSymbol (codePoint c ++ cs) = some (.character c, cs) := by
  have hcode : codePoint c ++ cs = '\\' :: 'u' :: '\x7b' :: (hexDigits c.toNat ++ '\x7d' :: cs) := by simp [codePoint]
  have hdigits : (hexDigits c.toNat ++ '\x7d' :: cs).takeWhile (· ≠ '\x7d') = hexDigits c.toNat := by
    rw [List.takeWhile_append_of_pos (by simpa using hexDigits_ne_brace c.toNat)]
    simp
  rw [hcode, readSymbol_escape, readEscape, if_neg (by decide), if_pos rfl]
  simp only [List.drop_succ_cons, List.drop_zero, hdigits, readHex_hexDigits, Char.ofNat_toNat]
  simp

/-- A symbol is read off what it is written as, whatever follows it. -/
theorem readSymbol_quoted (a : Symbol) (cs : List Char) : readSymbol (a.quoted ++ cs) = some (a, cs) := by
  cases a with
  | byte b => exact readSymbol_byte b cs
  | character c =>
    rw [Symbol.quoted]
    rcases quoteChar_cases c with ⟨e, he, hc⟩ | hc | ⟨hc, -, hquote, hback⟩
    · rw [hc]
      exact readEscape_short he cs
    · rw [hc, readSymbol_codePoint]
    · rw [hc, List.singleton_append, readSymbol, if_neg hquote, if_neg hback]

/-! ## What is quoted can be told -/

theorem quoted_append_inj (h : as.flatMap Symbol.quoted ++ '"' :: cs = bs.flatMap Symbol.quoted ++ '"' :: ds) :
    as = bs ∧ cs = ds := by
  -- The closing quote is no symbol, so both sides end at once; before that both begin with the same symbol.
  have hread := congrArg readSymbol h
  induction as generalizing bs with
  | nil =>
    cases bs with
    | nil => exact ⟨rfl, List.tail_eq_of_cons_eq h⟩
    | cons b bs =>
      rw [List.flatMap_cons, List.append_assoc, readSymbol_quoted] at hread
      cases hread
  | cons a as ih =>
    rw [List.flatMap_cons, List.append_assoc, readSymbol_quoted] at hread
    cases bs with
    | nil => cases hread
    | cons b bs =>
      rw [List.flatMap_cons, List.append_assoc, readSymbol_quoted] at hread
      obtain ⟨rfl, hrest⟩ := Prod.mk.inj (Option.some.inj hread)
      obtain ⟨rfl, htail⟩ := ih hrest (congrArg readSymbol hrest)
      exact ⟨rfl, htail⟩

/-- What is quoted can be told, and so can what follows the closing quote, even if one of them holds quotes. -/
theorem quoteSymbols_append_inj : quoteSymbols as ++ cs = quoteSymbols bs ++ ds ↔ as = bs ∧ cs = ds := by
  constructor
  · intro h
    simp only [quoteSymbols, List.append_assoc, List.nil_append, List.cons_append] at h
    exact quoted_append_inj (List.tail_eq_of_cons_eq h)
  · rintro ⟨rfl, rfl⟩
    rfl

theorem quote_append_inj : quote us ++ cs = quote vs ++ ds ↔ us = vs ∧ cs = ds := by
  rw [quote_eq, quote_eq, quoteSymbols_append_inj,
    List.map_inj_right fun _ _ h => Symbol.character.inj h]

theorem quoteBytes_inj {bs bs' : Bytes} : quoteBytes bs = quoteBytes bs' ↔ bs = bs' := by
  have h := @quoteSymbols_append_inj [] [] (symbols bs) (symbols bs')
  rw [List.append_nil, List.append_nil, and_iff_left rfl, symbols_injective.eq_iff] at h
  rw [quoteBytes_eq, quoteBytes_eq, h]

/-! ## What is quoted holds no commands -/

theorem toNat_of_isPrintable (h : isPrintable c) : 0x20 ≤ c.toNat ∧ (c.toNat < 0x7F ∨ 0xA0 < c.toNat) := by
  unfold isPrintable at h
  split at h
  · next hlow => exact ⟨of_decide_eq_true h, .inl hlow⟩
  · next hhigh =>
    have hcontrol : (0x7F, 0xA0) ∈ unprintableRanges := .tail _ (.head _)
    have hout : ¬ c.toNat ≤ 0xA0 := by
      intro hle
      have hin : inRanges unprintableRanges c := List.any_eq_true.2 ⟨_, hcontrol, by simp; omega⟩
      simp [hin] at h
    omega

theorem harmless_of_isPrintable (h : isPrintable c) : Harmless [c] := by
  have hbounds := toNat_of_isPrintable h
  intro d hd
  obtain rfl := List.mem_singleton.1 hd
  refine ⟨fun hmem => ?_, by omega⟩
  simp only [List.mem_cons, List.not_mem_nil, or_false] at hmem
  rcases hmem with rfl | rfl | rfl | rfl | rfl <;> exact absurd hbounds (by decide)

theorem harmless_hexByte (b : UInt8) : Harmless (hexByte b) := by
  have hall : ∀ d < 16, Harmless [(hexDigit d).toUpper] := by decide
  have hb := b.toNat_lt
  exact harmless_append.2 ⟨hall (b.toNat / 16) (by omega), hall (b.toNat % 16) (by omega)⟩

theorem Symbol.harmless_quoted (a : Symbol) : Harmless a.quoted := by
  cases a with
  | byte b => exact harmless_append.2 ⟨by decide, harmless_hexByte b⟩
  | character c =>
    rw [Symbol.quoted]
    rcases quoteChar_cases c with ⟨e, he, hc⟩ | hc | ⟨hc, hprintable, -⟩
    · rw [hc]
      have hall : ∀ p ∈ shortEscapes, Harmless ['\\', p.1] := by decide
      exact hall _ he
    · rw [hc]
      exact harmless_codePoint c
    · rw [hc]
      exact harmless_of_isPrintable hprintable

theorem harmless_quoteSymbols (as : List Symbol) : Harmless (quoteSymbols as) := by
  have hquoted : Harmless (as.flatMap Symbol.quoted) := by
    intro c hc
    obtain ⟨a, -, ha⟩ := List.mem_flatMap.1 hc
    exact a.harmless_quoted c ha
  exact harmless_append.2 ⟨harmless_append.2 ⟨by decide, hquoted⟩, by decide⟩

theorem harmless_quote (cs : List Char) : Harmless (quote cs) := by
  rw [quote_eq]
  exact harmless_quoteSymbols _

theorem harmless_quoteBytes (bs : Bytes) : Harmless (quoteBytes bs) := by
  rw [quoteBytes_eq]
  exact harmless_quoteSymbols _

end PointSum.Text
