import PointSum.Proofs.Toml.Scanner

/-!
# Documents that go on after a line end

Behind a document that is scanned to its end, a line end closes what the end would have closed, so that the next line
is scanned as if it were the first one. Behind any other text a line end leads into a text on several lines, or there
is no way on.

* `Scanner.exists_of_scan_append` : scanning a text is scanning its parts;
* `Scanner.InBlock` : a text on several lines is open, and no quotation mark comes last;
  `Scanner.step_newline_cases` : what a line end does; `Scanner.step_newline_of_finish` : where the document could end;
* `IsBareKey cs` : the text is a key without quotes; `Scanner.steps_header` : the tokens of a header of one such key;
* `tokens?_line` : the tokens of a document and of the lines behind it;
* `tokens?_equals` : the tokens behind any text of a line with nothing but an equals sign.
-/

namespace PointSum.Toml

set_option autoImplicit false

variable {c : Char} {cs as bs rest : List Char} {ts us vs : List Token}

/-- The text is a key without quotes. -/
def IsBareKey (cs : List Char) : Prop :=
  cs ≠ [] ∧ ∀ c ∈ cs, c.isAlphanum || c == '_' || c == '-'

namespace Scanner

variable {s t : Scanner}

/-- The tokens of a text are those of its first part, and those of the rest from the state behind it. -/
theorem exists_of_scan_append (h : s.scan (as ++ bs) = some ts) :
    ∃ us t vs, s.steps as = some (us, t) ∧ t.scan bs = some vs ∧ ts = us ++ vs := by
  induction as generalizing s ts with
  | nil => exact ⟨[], s, ts, rfl, h, rfl⟩
  | cons a as ih =>
    rw [List.cons_append, scan] at h
    cases hstep : s.step a with
    | none =>
      rw [hstep] at h
      cases h
    | some o =>
      obtain ⟨us, r⟩ := o
      rw [hstep] at h
      obtain ⟨ws, hws, rfl⟩ := Option.map_eq_some_iff.1 h
      obtain ⟨us', t, vs, hsteps, hscan, rfl⟩ := ih hws
      refine ⟨us ++ us', t, vs, ?_, hscan, (List.append_assoc us us' vs).symm⟩
      rw [steps_cons hstep, hsteps]
      rfl

/-- A whole text is scanned up to a state in which a document may end. -/
theorem exists_of_scan (h : s.scan as = some ts) :
    ∃ us t vs, s.steps as = some (us, t) ∧ t.finish = some vs ∧ ts = us ++ vs := by
  rw [← List.append_nil as] at h
  exact exists_of_scan_append h

/-! ## Line ends -/

/-- A text on several lines is open, and no quotation mark was read last. -/
def InBlock : Scanner → Prop
  | block _ _ marks => marks = 0
  | joined _ => True
  | _ => False

theorem stepOutside_newline : stepOutside '\n' = some ([.newline], outside) := rfl

theorem stepWord_newline (read blanks : List Char) :
    stepWord read blanks '\n' = some (.word read.reverse :: blanks.map (fun _ => .blank) ++ [.newline], outside) := by
  have hspacing : isSpacing '\n' = false := rfl
  have hstart : isWordStart '\n' = false := rfl
  have hword : isWordChar '\n' = false := rfl
  simp [stepWord, hspacing, hstart, hword, stepOutside_newline, Outcome.after]

theorem stepBlock_newline {marks : Nat} (h : 3 ≤ marks) (q : Quote) (read : List Char) :
    stepBlock q read marks '\n' = some ([blockToken q read marks, .newline], outside) := by
  have hmark : '\n' ≠ q.mark := by cases q <;> decide
  simp [stepBlock, hmark, h, stepOutside_newline, Outcome.after]

theorem step_newline_of_finish (h : s.finish = some ts) : s.step '\n' = some (ts ++ [.newline], outside) := by
  cases s with
  | outside => cases h; rfl
  | word read blanks =>
    cases h
    exact stepWord_newline read blanks
  | comment => cases h; rfl
  | openedTwice q =>
    cases h
    cases q <;> rfl
  | block q read marks =>
    simp only [finish, Option.ite_none_right_eq_some, Option.some.injEq] at h
    obtain ⟨hmarks, rfl⟩ := h
    exact stepBlock_newline hmarks q read
  | _ => cases h

/-- In a text on several lines most characters stand for themselves, and marks before them are part of the text. -/
theorem stepBlock_char {q : Quote} {marks : Nat} (hmarks : marks < 3) (hmark : c ≠ q.mark)
    (hback : q = .basic → c ≠ '\\') (htext : isTextChar c ∨ c = '\n' ∨ c = '\r') (read : List Char) :
    stepBlock q read marks c = some ([], block q (c :: (List.replicate marks q.mark ++ read)) 0) := by
  have hopen : ¬ 3 ≤ marks := Nat.not_le.2 hmarks
  have hescape : ¬ (c = '\\' ∧ q = .basic) := fun h => hback h.2 h.1
  unfold stepBlock
  rw [if_neg hmark, if_neg hopen, if_neg hescape, if_pos htext]

theorem step_newline_cases (h : s.step '\n' = some (ts, t)) :
    (∃ us, s.finish = some us ∧ ts = us ++ [.newline] ∧ t = outside) ∨ ts = [] ∧ t.InBlock := by
  cases hfinish : s.finish with
  | some us =>
    rw [step_newline_of_finish hfinish] at h
    cases h
    exact .inl ⟨us, rfl, rfl, rfl⟩
  | none =>
    right
    cases s with
    | outside => cases hfinish
    | word read blanks => cases hfinish
    | comment => cases hfinish
    | openedTwice q => cases hfinish
    | opened q => cases q <;> cases h
    | line q read => cases q <;> cases h
    | blockOpened q =>
      cases h
      exact ⟨rfl, rfl⟩
    | block q read marks =>
      have hmarks : marks < 3 := by simpa [finish] using hfinish
      have hmark : '\n' ≠ q.mark := by cases q <;> decide
      rw [step, stepBlock_char hmarks hmark (fun _ => by decide) (.inr (.inl rfl))] at h
      cases h
      exact ⟨rfl, rfl⟩
    | escape multiline read =>
      cases multiline with
      | true =>
        cases h
        exact ⟨rfl, trivial⟩
      | false => cases h
    | code multiline read missing value => cases h
    | joining read =>
      cases h
      exact ⟨rfl, trivial⟩
    | joined read =>
      cases h
      exact ⟨rfl, trivial⟩

/-! ## Lines with an equals sign -/

theorem InBlock.step (h : s.InBlock) (hc : c = '=' ∨ c = '\n') : ∃ t, s.step c = some ([], t) ∧ t.InBlock := by
  have htext : isTextChar c ∨ c = '\n' ∨ c = '\r' := by
    rcases hc with rfl | rfl <;> decide
  have hback : c ≠ '\\' := by
    rcases hc with rfl | rfl <;> decide
  cases s with
  | block q read marks =>
    have hmark : c ≠ q.mark := by
      rcases hc with rfl | rfl <;> cases q <;> decide
    obtain rfl : marks = 0 := h
    exact ⟨_, stepBlock_char (by decide) hmark (fun _ => hback) htext read, rfl⟩
  | joined read =>
    rcases hc with rfl | rfl
    · exact ⟨_, rfl, rfl⟩
    · exact ⟨_, rfl, trivial⟩
  | _ => cases h

theorem InBlock.finish (h : s.InBlock) : s.finish = none := by
  cases s with
  | block q read marks =>
    obtain rfl : marks = 0 := h
    rfl
  | joined read => rfl
  | _ => cases h

/-- A text on several lines is not closed by equals signs and line ends. -/
theorem InBlock.scan (h : s.InBlock) (hcs : ∀ c ∈ cs, c = '=' ∨ c = '\n') : s.scan cs = none := by
  induction cs generalizing s with
  | nil => exact h.finish
  | cons c cs ih =>
    obtain ⟨hc, hcs⟩ := List.forall_mem_cons.1 hcs
    obtain ⟨t, hstep, ht⟩ := h.step hc
    rw [scan_cons hstep, ih ht hcs]
    rfl

theorem scan_newlines (n : Nat) :
    outside.scan (List.replicate n '\n') = some (List.replicate n .newline) := by
  induction n with
  | zero => rfl
  | succ n ih =>
    have hstep : outside.step '\n' = some ([.newline], outside) := rfl
    rw [List.replicate_succ, scan_cons hstep, ih]
    rfl

theorem scan_equals {n : Nat} (h : s.scan ('\n' :: '=' :: List.replicate n '\n') = some ts) :
    ∃ us, s.finish = some us ∧ ts = us ++ .newline :: .equals :: List.replicate n .newline := by
  cases hstep : s.step '\n' with
  | none =>
    rw [Scanner.scan, hstep] at h
    cases h
  | some o =>
    obtain ⟨us, t⟩ := o
    rw [scan_cons hstep] at h
    rcases step_newline_cases hstep with ⟨vs, hfinish, rfl, rfl⟩ | ⟨-, hblock⟩
    · have hequals : outside.step '=' = some ([.equals], outside) := rfl
      rw [scan_cons hequals, scan_newlines] at h
      cases h
      exact ⟨vs, hfinish, by simp⟩
    · rw [hblock.scan] at h
      · cases h
      · simp +contextual [List.mem_replicate]

/-! ## Headers -/

theorem isWordStart_of_bare (hc : c.isAlphanum || c == '_' || c == '-') : isWordStart c := by
  have hne : ∀ d, (d.isAlphanum || d == '_' || d == '-') = false → c ≠ d := by
    rintro d hd rfl
    rw [hd] at hc
    cases hc
  have hspace := hne ' ' (by decide)
  have htab := hne '\t' (by decide)
  have hreturn := hne '\r' (by decide)
  have hnewline := hne '\n' (by decide)
  have hhash := hne '#' (by decide)
  have hbasic := hne '"' (by decide)
  have hliteral := hne '\'' (by decide)
  have hpunctuation : Token.ofPunctuation? c = none := by
    simp [Token.ofPunctuation?, hne '=' (by decide), hne '.' (by decide), hne ',' (by decide), hne '[' (by decide),
      hne ']' (by decide), hne '\x7b' (by decide), hne '\x7d' (by decide)]
  simp [isWordStart, isWordChar, isSpacing, hspace, htab, hreturn, hnewline, hhash, hbasic, hliteral, hpunctuation]

theorem step_outside_of_wordStart (h : isWordStart c) : outside.step c = some ([], word [c] []) := by
  have hc := h
  simp only [isWordStart, isWordChar, Bool.and_eq_true, Bool.not_eq_true', bne_iff_ne, ne_eq] at hc
  obtain ⟨⟨⟨⟨⟨⟨hspacing, hreturn⟩, hnewline⟩, hhash⟩, -⟩, hbasic⟩, hliteral⟩ := hc
  simp [step, stepOutside, hspacing, hreturn, hnewline, hhash, hbasic, hliteral, h]

theorem step_word_of_wordStart (h : isWordStart c) (read : List Char) :
    (word read []).step c = some ([], word (c :: read) []) := by
  have hc := h
  simp only [isWordStart, isWordChar, Bool.and_eq_true, Bool.not_eq_true', bne_iff_ne, ne_eq] at hc
  obtain ⟨⟨⟨⟨⟨⟨hspacing, -⟩, -⟩, -⟩, -⟩, -⟩, -⟩ := hc
  simp [step, stepWord, hspacing, h]

theorem steps_word (h : ∀ c ∈ cs, isWordStart c) (read : List Char) :
    (word read []).steps cs = some ([], word (cs.reverse ++ read) []) := by
  induction cs generalizing read with
  | nil => rfl
  | cons c cs ih =>
    obtain ⟨hc, hcs⟩ := List.forall_mem_cons.1 h
    rw [steps_cons (step_word_of_wordStart hc read), ih hcs, List.reverse_cons, List.append_assoc]
    rfl

theorem steps_header (h : IsBareKey cs) :
    outside.steps ('[' :: cs ++ [']']) = some ([.openBracket, .word cs, .closeBracket], outside) := by
  obtain ⟨hne, hcs⟩ := h
  obtain ⟨c, cs, rfl⟩ := List.exists_cons_of_ne_nil hne
  obtain ⟨hc, hcs⟩ := List.forall_mem_cons.1 hcs
  have hopen : outside.step '[' = some ([.openBracket], outside) := rfl
  have hword := steps_word (fun d hd => isWordStart_of_bare (hcs d hd)) [c]
  have hclose : (word (cs.reverse ++ [c]) []).steps [']'] = some ([.word (c :: cs), .closeBracket], outside) := by
    have hspacing : isSpacing ']' = false := rfl
    have hstart : isWordStart ']' = false := rfl
    have hchar : isWordChar ']' = false := rfl
    have hstep : stepOutside ']' = some ([.closeBracket], outside) := rfl
    simp [steps, step, stepWord, hspacing, hstart, hchar, hstep, Outcome.after]
  rw [List.cons_append, steps_cons hopen, List.cons_append,
    steps_cons (step_outside_of_wordStart (isWordStart_of_bare hc)), steps_append hword hclose]
  rfl

end Scanner

/-! ## Whole documents -/

theorem withoutMark_line (as bs : List Char) : withoutMark (as ++ '\n' :: bs) = withoutMark as ++ '\n' :: bs := by
  cases as with
  | nil => rfl
  | cons a as =>
    simp only [List.cons_append, withoutMark]
    split <;> rfl

theorem scan_of_tokens? (h : tokens? cs = some ts) : Scanner.outside.scan (withoutMark cs) = some ts := by
  unfold tokens? at h
  split at h
  · exact h
  · cases h

/-- The tokens of a document, a line end, and the tokens of the lines behind it. -/
theorem tokens?_line (hcs : tokens? cs = some ts) (h : tokens? (cs ++ '\n' :: rest) = some us) :
    ∃ vs, Scanner.outside.scan rest = some vs ∧ us = ts ++ .newline :: vs := by
  obtain ⟨ts, s, ws, hsteps, hfinish, rfl⟩ := Scanner.exists_of_scan (scan_of_tokens? hcs)
  have hscan := scan_of_tokens? h
  rw [withoutMark_line, Scanner.scan_append hsteps,
    Scanner.scan_cons (Scanner.step_newline_of_finish hfinish)] at hscan
  simp only [Option.map_eq_some_iff] at hscan
  obtain ⟨-, ⟨vs, hvs, rfl⟩, rfl⟩ := hscan
  exact ⟨vs, hvs, by simp⟩

/-- The tokens of any text and of a line behind it that is an equals sign. -/
theorem tokens?_equals {n : Nat} (h : tokens? (cs ++ '\n' :: '=' :: List.replicate n '\n') = some ts) :
    ∃ us, ts = us ++ .newline :: .equals :: List.replicate n .newline := by
  have hscan := scan_of_tokens? h
  rw [withoutMark_line] at hscan
  obtain ⟨us, s, vs, -, hrest, rfl⟩ := Scanner.exists_of_scan_append hscan
  obtain ⟨ws, -, rfl⟩ := Scanner.scan_equals hrest
  exact ⟨us ++ ws, by simp⟩

end PointSum.Toml
