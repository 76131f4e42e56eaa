import Mathlib.Tactic.SplitIfs
import PointSum.Proofs.Text.Hexadecimal
import PointSum.Toml.Scanner

/-!
# Scanning piece by piece

* `Scanner.steps` : the tokens that a piece of a document completes and the state behind it; `scan_append` : scanning
  goes on from there;
* `basicText capital cs` : a text between double quotes, on one line and with escapes where they are needed;
* `steps_basicChar` : however a character is written in it, the scanner reads the character; `scan_basicText` : a text
  between double quotes is one token; `tokens?_basicText` : so it is in a whole document.
-/

namespace PointSum.Toml

set_option autoImplicit false

open Number (digitBelow?)
open Text (hexDigit digitBelow?_hexDigit digitBelow?_toUpper_hexDigit)

variable {c : Char} {cs as bs before after read rest : List Char} {ts us : List Token}

namespace Scanner

variable {s t s' : Scanner}

/-- The tokens that the characters complete, and the state behind them. -/
def steps : Scanner → List Char → Outcome
  | s, [] => some ([], s)
  | s, c :: cs => (s.step c).bind fun (ts, s') => (steps s' cs).after ts

theorem scan_cons (h : s.step c = some (ts, t)) (cs : List Char) : s.scan (c :: cs) = (t.scan cs).map (ts ++ ·) := by
  rw [scan, h]

theorem steps_cons (h : s.step c = some (ts, t)) (cs : List Char) : s.steps (c :: cs) = (t.steps cs).after ts := by
  rw [steps, h]
  rfl

theorem exists_of_steps_cons (h : s.steps (c :: cs) = some (ts, s')) :
    ∃ us vs t, s.step c = some (us, t) ∧ t.steps cs = some (vs, s') ∧ ts = us ++ vs := by
  obtain ⟨⟨us, t⟩, hstep, hrest⟩ := Option.bind_eq_some_iff.1 h
  obtain ⟨⟨vs, t'⟩, hsteps, heq⟩ := Option.map_eq_some_iff.1 hrest
  cases heq
  exact ⟨us, vs, t, hstep, hsteps, rfl⟩

theorem steps_append (h : s.steps as = some (ts, t)) (ht : t.steps bs = some (us, s')) :
    s.steps (as ++ bs) = some (ts ++ us, s') := by
  induction as generalizing s ts with
  | nil =>
    cases h
    exact ht
  | cons a as ih =>
    obtain ⟨vs, ws, r, hstep, hsteps, rfl⟩ := exists_of_steps_cons h
    rw [List.cons_append, steps_cons hstep, ih hsteps, List.append_assoc]
    rfl

/-- Scanning goes on behind a piece that has been scanned. -/
theorem scan_append (h : s.steps as = some (ts, t)) (bs : List Char) :
    s.scan (as ++ bs) = (t.scan bs).map (ts ++ ·) := by
  induction as generalizing s ts with
  | nil =>
    cases h
    simp
  | cons a as ih =>
    obtain ⟨vs, ws, r, hstep, hsteps, rfl⟩ := exists_of_steps_cons h
    rw [List.cons_append, scan_cons hstep, ih hsteps, Option.map_map]
    congr 1
    funext us
    exact (List.append_assoc vs ws us).symm

/-- A piece that completes no token leaves only its state. -/
theorem scan_of_steps (h : s.steps as = some ([], t)) (bs : List Char) : s.scan (as ++ bs) = t.scan bs := by
  rw [scan_append h]
  exact Option.map_id_apply

theorem scan_of_step (h : s.step c = some ([], t)) (cs : List Char) : s.scan (c :: cs) = t.scan cs := by
  rw [scan_cons h]
  exact Option.map_id_apply

/-- Where the end of a document completes a token, and what follows completes it too, it goes on from there as it does
where nothing is open. -/
theorem scan_of_finish {t : Token} (hfinish : s.finish = some [t])
    (hstep : ∀ c ∈ rest.head?, s.step c = (outside.step c).after [t]) :
    s.scan rest = (outside.scan rest).map (t :: ·) := by
  cases rest with
  | nil =>
    rw [scan, hfinish]
    rfl
  | cons c rest =>
    have hc := hstep c rfl
    cases ho : outside.step c with
    | none =>
      rw [scan, scan, hc, ho]
      rfl
    | some o =>
      rw [ho] at hc
      rw [scan_cons ho, scan_cons hc, Option.map_map]
      rfl

end Scanner

/-! ## Texts between double quotes -/

/-- The digit of a value below sixteen, in capital letters or small ones. -/
def codeDigit (capital : Bool) (n : Nat) : Char :=
  if capital then (hexDigit n).toUpper else hexDigit n

/-- How a character is written between double quotes: the quotation mark and the backslash behind a backslash, a
control character by its code point, and any other character as it is. -/
def basicChar (capital : Bool) (c : Char) : List Char :=
  if c = '"' ∨ c = '\\' then ['\\', c]
  else if c.toNat < 0x20 ∨ c = '\x7f' then
    ['\\', 'u', '0', '0', codeDigit capital (c.toNat / 16), codeDigit capital (c.toNat % 16)]
  else [c]

/-- The text between double quotes. -/
def basicText (capital : Bool) (cs : List Char) : List Char :=
  ['"'] ++ cs.flatMap (basicChar capital) ++ ['"']

theorem digitBelow?_codeDigit (capital : Bool) {n : Nat} (h : n < 16) :
    digitBelow? 16 (codeDigit capital n) = some n := by
  cases capital with
  | false => exact digitBelow?_hexDigit h
  | true => exact digitBelow?_toUpper_hexDigit h

theorem toNat_lt_of_control (h : c.toNat < 0x20 ∨ c = '\x7f') : c.toNat < 0x80 := by
  obtain hlow | rfl := h
  · omega
  · decide

theorem isTextChar_of_not_control (h : ¬ (c.toNat < 0x20 ∨ c = '\x7f')) : isTextChar c := by
  obtain ⟨hlow, hdelete⟩ := not_or.1 h
  simp [isTextChar, hdelete, Nat.le_of_not_lt hlow]

theorem basicChar_eq_cons (capital : Bool) (c : Char) : ∃ d ds, basicChar capital c = d :: ds ∧ d ≠ '"' := by
  unfold basicChar
  split_ifs with hmark hcontrol
  · exact ⟨_, _, rfl, by decide⟩
  · exact ⟨_, _, rfl, by decide⟩
  · exact ⟨_, _, rfl, fun h => hmark (.inl h)⟩

namespace Scanner

/-- A control character by its code point: the last two of its four digits are those of the character. -/
theorem steps_controlCode (capital : Bool) (hc : c.toNat < 0x80) (read : List Char) :
    (line .basic read).steps
      ['\\', 'u', '0', '0', codeDigit capital (c.toNat / 16), codeDigit capital (c.toNat % 16)] =
    some ([], line .basic (c :: read)) := by
  have hhigh := digitBelow?_codeDigit capital (show c.toNat / 16 < 16 by omega)
  have hlow := digitBelow?_codeDigit capital (show c.toNat % 16 < 16 by omega)
  have hvalue : 16 * (c.toNat / 16) + c.toNat % 16 = c.toNat := Nat.div_add_mod ..
  have hvalid : c.toNat.isValidChar := c.valid
  have hstart : (line .basic read).steps ['\\', 'u', '0', '0'] = some ([], code false read 2 0) := rfl
  have hend : (code false read 2 0).steps [codeDigit capital (c.toNat / 16), codeDigit capital (c.toNat % 16)] =
      some ([], line .basic (c :: read)) := by
    simp [steps, step, stepCode, hhigh, hlow, hvalue, hvalid, Outcome.after, resume]
  exact steps_append hstart hend

theorem steps_basicChar (capital : Bool) (c : Char) (read : List Char) :
    (line .basic read).steps (basicChar capital c) = some ([], .line .basic (c :: read)) := by
  unfold basicChar
  split_ifs with hmark hcontrol
  · obtain rfl | rfl := hmark
    · rfl
    · rfl
  · exact steps_controlCode capital (toNat_lt_of_control hcontrol) read
  · have htext := isTextChar_of_not_control hcontrol
    obtain ⟨hquote, hback⟩ := not_or.1 hmark
    simp [steps, step, stepLine, Quote.mark, hquote, hback, htext, Outcome.after]

theorem steps_basicChars (capital : Bool) (cs read : List Char) :
    (line .basic read).steps (cs.flatMap (basicChar capital)) = some ([], line .basic (cs.reverse ++ read)) := by
  induction cs generalizing read with
  | nil => rfl
  | cons c cs ih =>
    rw [List.flatMap_cons, List.reverse_cons, List.append_assoc]
    exact steps_append (steps_basicChar capital c read) (ih (c :: read))

/-- Behind its quotation mark a text that is not empty goes on as it does behind any of its characters. -/
theorem steps_opened {q : Quote} {d : Char} (h : d ≠ q.mark) (ds : List Char) :
    (opened q).steps (d :: ds) = (line q []).steps (d :: ds) := by
  simp [steps, step, h]

theorem scan_openedTwice {q : Quote} (h : rest.head? ≠ some q.mark) :
    (openedTwice q).scan rest = (outside.scan rest).map (.text [] false :: ·) := by
  apply scan_of_finish
  · rfl
  · intro c hc
    have hmark : c ≠ q.mark := fun hmark => h (hmark ▸ hc)
    exact if_neg hmark

/-- A text between double quotes is one token, unless it is empty and a third quotation mark follows. -/
theorem scan_basicText (capital : Bool) (cs : List Char) (h : rest.head? ≠ some '"') :
    outside.scan (basicText capital cs ++ rest) = (outside.scan rest).map (.text cs false :: ·) := by
  cases cs with
  | nil =>
    have hmarks : outside.steps (basicText capital []) = some ([], openedTwice .basic) := rfl
    rw [scan_append hmarks, scan_openedTwice (q := .basic) h, Option.map_map]
    rfl
  | cons c cs =>
    obtain ⟨d, ds, hd, hmark⟩ := basicChar_eq_cons capital c
    have hopen : outside.steps ['"'] = some ([], opened .basic) := rfl
    have hchars : (opened .basic).steps ((c :: cs).flatMap (basicChar capital)) =
        some ([], line .basic (c :: cs).reverse) := by
      rw [List.flatMap_cons, hd, List.cons_append, steps_opened (q := .basic) hmark, ← List.cons_append, ← hd,
        ← List.flatMap_cons, steps_basicChars, List.append_nil]
    have hclose : (line .basic (c :: cs).reverse).steps ['"'] = some ([.text (c :: cs) false], outside) := by
      simp [steps, step, stepLine, Quote.mark, Outcome.after]
    have hsteps := steps_append (steps_append hopen hchars) hclose
    exact scan_append hsteps rest

end Scanner

/-! ## Carriage returns -/

theorem returnsPaired_of_not_mem (h : '\r' ∉ cs) : returnsPaired cs := by
  induction cs with
  | nil => rfl
  | cons c cs ih =>
    have hc : c ≠ '\r' := fun hc => h (hc ▸ List.mem_cons_self)
    have hcs : '\r' ∉ cs := mt (List.mem_cons_of_mem c) h
    cases cs with
    | nil => simp [returnsPaired, hc]
    | cons d cs => simp [returnsPaired, hc, ih hcs]

theorem return_not_mem_basicChar (capital : Bool) (c : Char) : '\r' ∉ basicChar capital c := by
  have hdigit : ∀ n < 16, '\r' ≠ codeDigit capital n := by
    cases capital <;> decide
  unfold basicChar
  split_ifs with hmark hcontrol
  · obtain rfl | rfl := hmark
    · decide
    · decide
  · have hlow := toNat_lt_of_control hcontrol
    simp [hdigit (c.toNat / 16) (by omega), hdigit (c.toNat % 16) (by omega)]
  · intro h
    obtain rfl := List.mem_singleton.1 h
    exact hcontrol (.inl (by decide))

theorem return_not_mem_basicText (capital : Bool) (cs : List Char) : '\r' ∉ basicText capital cs := by
  simp [basicText, return_not_mem_basicChar]

/-! ## Whole documents -/

theorem withoutMark_of_head? (h : cs.head? ≠ some byteOrderMark) : withoutMark cs = cs := by
  cases cs with
  | nil => rfl
  | cons c cs => exact if_neg fun hc => h (congrArg some hc)

/-- The tokens of a document with a text between double quotes in it. -/
theorem tokens?_basicText (capital : Bool) (cs : List Char)
    (hbefore : Scanner.outside.steps before = some (ts, .outside)) (hafter : Scanner.outside.scan after = some us)
    (hreturn : '\r' ∉ before ++ after) (hmark : before.head? ≠ some byteOrderMark)
    (hquote : after.head? ≠ some '"') :
    tokens? (before ++ basicText capital cs ++ after) = some (ts ++ .text cs false :: us) := by
  have hpaired : returnsPaired (before ++ basicText capital cs ++ after) := by
    apply returnsPaired_of_not_mem
    simp only [List.mem_append, not_or] at hreturn ⊢
    exact ⟨⟨hreturn.1, return_not_mem_basicText capital cs⟩, hreturn.2⟩
  have hhead : (before ++ basicText capital cs ++ after).head? ≠ some byteOrderMark := by
    cases before with
    | nil =>
      simp only [basicText, List.nil_append, List.cons_append, List.head?_cons]
      decide
    | cons b before => exact hmark
  rw [tokens?, if_pos hpaired, withoutMark_of_head? hhead, List.append_assoc, Scanner.scan_append hbefore,
    Scanner.scan_basicText capital cs hquote, hafter]
  rfl

end PointSum.Toml
