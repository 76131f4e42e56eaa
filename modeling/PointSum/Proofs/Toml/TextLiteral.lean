import PointSum.Proofs.Toml.Lines
import PointSum.Toml.Numeral

/-!
# Texts between quotation marks

* `Escape es c` : what stands behind a backslash for a character;
* `LineText q cs ds`, `BlockText q cs ds` : what stands between the quotation marks of a text on one line, and on
  several lines, and the text that it is;
* `TextLiteral cs ds` : a text with its quotation marks; `TextLiteral.scan` : it is one token, whatever follows but
  another quotation mark.
-/

namespace PointSum.Toml

set_option autoImplicit false

open Number (digitBelow?)

variable {c : Char} {cs ds es as bs read rest : List Char} {q : Quote} {n value : Nat}

/-! ## The grammar -/

/-- What stands behind a backslash for a character: one character, or a letter and as many digits as it asks for. -/
inductive Escape : List Char → Char → Prop where
  | short {e c : Char} (h : escaped? e = some c) : Escape [e] c
  | code {l : Char} {n value : Nat} {es : List Char} (hl : codeLength? l = some n) (hn : es.length = n)
      (hvalue : natOf? 16 es = some value) (hvalid : value.isValidChar) : Escape (l :: es) (Char.ofNat value)

/-- What stands between two quotation marks on one line, and the text that it is. -/
inductive LineText (q : Quote) : List Char → List Char → Prop where
  | nil : LineText q [] []
  | char {c : Char} {cs ds : List Char} (hc : isTextChar c) (hmark : c ≠ q.mark) (hback : q = .basic → c ≠ '\\')
      (h : LineText q cs ds) : LineText q (c :: cs) (c :: ds)
  | escape {es cs ds : List Char} {c : Char} (hq : q = .basic) (hes : Escape es c) (h : LineText q cs ds) :
      LineText q ('\\' :: es ++ cs) (c :: ds)

/-- Whether the character is a blank, a line end, or a part of one. -/
def IsGap (c : Char) : Prop :=
  isSpacing c ∨ c = '\r' ∨ c = '\n'

instance : DecidablePred IsGap := fun c => inferInstanceAs (Decidable (isSpacing c ∨ c = '\r' ∨ c = '\n'))

/-- What stands between three quotation marks and three others, and the text that it is. One or two quotation marks
are part of it. A backslash at the end of a line takes that line end away, and all blanks and line ends behind it. -/
inductive BlockText (q : Quote) : List Char → List Char → Prop where
  | marks {n : Nat} (hn : n < 3) : BlockText q (List.replicate n q.mark) (List.replicate n q.mark)
  | char {n : Nat} {c : Char} {cs ds : List Char} (hn : n < 3) (hc : isTextChar c ∨ c = '\n' ∨ c = '\r')
      (hmark : c ≠ q.mark) (hback : q = .basic → c ≠ '\\') (h : BlockText q cs ds) :
      BlockText q (List.replicate n q.mark ++ c :: cs) (List.replicate n q.mark ++ c :: ds)
  | escape {n : Nat} {es cs ds : List Char} {c : Char} (hn : n < 3) (hq : q = .basic) (hes : Escape es c)
      (h : BlockText q cs ds) :
      BlockText q (List.replicate n q.mark ++ '\\' :: (es ++ cs)) (List.replicate n q.mark ++ c :: ds)
  | join {n : Nat} {as bs cs ds : List Char} (hn : n < 3) (hq : q = .basic)
      (has : ∀ c ∈ as, isSpacing c ∨ c = '\r') (hbs : ∀ c ∈ bs, IsGap c) (hcs : ∀ c ∈ cs.head?, ¬ IsGap c)
      (h : BlockText q cs ds) :
      BlockText q (List.replicate n q.mark ++ '\\' :: (as ++ '\n' :: (bs ++ cs))) (List.replicate n q.mark ++ ds)

/-- A text with its quotation marks. A line end right behind three of them is not part of it. -/
inductive TextLiteral : List Char → List Char → Prop where
  | line {q : Quote} {cs ds : List Char} (h : LineText q cs ds) : TextLiteral (q.mark :: (cs ++ [q.mark])) ds
  | block {q : Quote} {cs ds : List Char} (h : BlockText q cs ds) (hcs : ∀ c ∈ cs.head?, c ≠ '\r' ∧ c ≠ '\n') :
      TextLiteral (List.replicate 3 q.mark ++ (cs ++ List.replicate 3 q.mark)) ds
  | blockBelow {q : Quote} {cs ds : List Char} (first : List Char) (hfirst : first = ['\n'] ∨ first = ['\r', '\n'])
      (h : BlockText q cs ds) : TextLiteral (List.replicate 3 q.mark ++ (first ++ (cs ++ List.replicate 3 q.mark))) ds

/-- Between single quotation marks every character stands for itself. -/
theorem lineText_literal (h : cs.all fun c => isTextChar c && c != '\'') : LineText .literal cs cs := by
  induction cs with
  | nil => exact .nil
  | cons c cs ih =>
    rw [List.all_cons, Bool.and_eq_true, Bool.and_eq_true] at h
    obtain ⟨⟨htext, hmark⟩, hcs⟩ := h
    exact .char htext (bne_iff_ne.1 hmark) (fun hq => by cases hq) (ih hcs)

/-! ## Escapes -/

theorem isSome_of_foldlM {m : Nat}
    (h : es.foldlM (fun n c => (digitBelow? 16 c).map fun d => 16 * n + d) m = some value) (hc : c ∈ es) :
    (digitBelow? 16 c).isSome := by
  induction es generalizing m with
  | nil => cases hc
  | cons e es ih =>
    rw [List.foldlM_cons] at h
    obtain ⟨k, hk, h⟩ := Option.bind_eq_some_iff.1 h
    rcases List.mem_cons.1 hc with rfl | hc
    · obtain ⟨d, hd, -⟩ := Option.map_eq_some_iff.1 hk
      exact Option.isSome_of_eq_some hd
    · exact ih h hc

theorem Escape.return_not_mem (h : Escape es c) : '\r' ∉ es := by
  intro hmem
  cases h with
  | short h =>
    obtain rfl := List.mem_singleton.1 hmem
    cases h
  | code hl hn hvalue hvalid =>
    rcases List.mem_cons.1 hmem with rfl | hmem
    · cases hl
    · unfold natOf? at hvalue
      split_ifs at hvalue
      exact absurd (isSome_of_foldlM hvalue hmem) (by decide)

theorem LineText.return_not_mem (h : LineText q cs ds) : '\r' ∉ cs := by
  induction h with
  | nil => exact List.not_mem_nil
  | char hc hmark hback h ih =>
    intro hmem
    rcases List.mem_cons.1 hmem with rfl | hmem
    · exact absurd hc (by decide)
    · exact ih hmem
  | escape hq hes h ih =>
    simp [hes.return_not_mem, ih]

namespace Scanner

variable {multiline : Bool}

theorem steps_code {m : Nat} (hes : es ≠ [])
    (h : es.foldlM (fun n c => (digitBelow? 16 c).map fun d => 16 * n + d) m = some value)
    (hvalid : value.isValidChar) (read : List Char) :
    (code multiline read es.length m).steps es = some ([], resume multiline (Char.ofNat value :: read)) := by
  induction es generalizing m with
  | nil => exact absurd rfl hes
  | cons e es ih =>
    rw [List.foldlM_cons] at h
    obtain ⟨k, hk, h⟩ := Option.bind_eq_some_iff.1 h
    obtain ⟨d, hd, rfl⟩ := Option.map_eq_some_iff.1 hk
    cases es with
    | nil =>
      cases h
      simp [steps, step, stepCode, hd, hvalid, Outcome.after]
    | cons f es =>
      have hstep : (code multiline read (f :: es).length.succ m).step e =
          some ([], code multiline read (f :: es).length (16 * m + d)) := by
        simp [step, stepCode, hd]
      rw [List.length_cons, steps_cons hstep, ih (List.cons_ne_nil f es) h]
      rfl

theorem steps_escape (h : Escape es c) (read : List Char) :
    (escape multiline read).steps es = some ([], resume multiline (c :: read)) := by
  cases h with
  | short h =>
    have hstep : ∀ {e : Char}, escaped? e = some c →
        (escape multiline read).step e = some ([], resume multiline (c :: read)) := by
      intro e he
      rw [step, stepEscape, he]
    rw [steps_cons (hstep h)]
    rfl
  | @code l n value es hl hn hvalue hvalid =>
    have hescaped : escaped? l = none := by
      unfold codeLength? at hl
      split_ifs at hl with hx hu hU
      · rw [hx]; rfl
      · rw [hu]; rfl
      · rw [hU]; rfl
    have hstep : (escape multiline read).step l = some ([], code multiline read n 0) := by
      rw [step, stepEscape, hescaped, hl]
    unfold natOf? at hvalue
    split_ifs at hvalue with hnil
    rw [steps_cons hstep, ← hn, steps_code hnil hvalue hvalid]
    rfl

/-! ## Texts on one line -/

theorem steps_lineText (h : LineText q cs ds) (read : List Char) :
    (line q read).steps cs = some ([], line q (ds.reverse ++ read)) := by
  induction h generalizing read with
  | nil => rfl
  | @char c cs ds hc hmark hback h ih =>
    have hescape : ¬ (c = '\\' ∧ q = .basic) := fun h => hback h.2 h.1
    have hstep : (line q read).step c = some ([], line q (c :: read)) := by
      rw [step, stepLine, if_neg hmark, if_neg hescape, if_pos hc]
    rw [steps_cons hstep, ih, List.reverse_cons, List.append_assoc]
    rfl
  | @escape es cs ds c hq hes h ih =>
    subst hq
    have hstep : (line .basic read).step '\\' = some ([], escape false read) := rfl
    have hescape : (escape false read).steps es = some ([], line .basic (c :: read)) := steps_escape hes read
    have hrest := steps_append hescape (ih (c :: read))
    rw [List.cons_append, steps_cons hstep, hrest, List.reverse_cons, List.append_assoc]
    rfl

theorem scan_lineText (h : LineText q cs ds) (hrest : rest.head? ≠ some q.mark) :
    outside.scan (q.mark :: (cs ++ [q.mark]) ++ rest) = (outside.scan rest).map (.text ds false :: ·) := by
  have hopen : outside.step q.mark = some ([], opened q) := by
    cases q <;> rfl
  cases cs with
  | nil =>
    cases h
    have hmarks : outside.steps [q.mark, q.mark] = some ([], openedTwice q) := by
      cases q <;> rfl
    have hscan := scan_append hmarks rest
    rw [scan_openedTwice hrest, Option.map_map] at hscan
    exact hscan
  | cons c cs =>
    have hmark : c ≠ q.mark := by
      cases h with
      | char hc hmark hback h => exact hmark
      | escape hq hes h =>
        subst hq
        decide
    have hclose : (line q ds.reverse).steps [q.mark] = some ([.text ds false], outside) := by
      simp [steps, step, stepLine, Outcome.after]
    have hline := steps_lineText h []
    rw [← steps_opened hmark, List.append_nil] at hline
    have hsteps := steps_append hline hclose
    rw [List.cons_append, scan_cons hopen, scan_append hsteps, Option.map_map]
    rfl

/-! ## Texts on several lines -/

theorem steps_marks (h : n ≤ 4) (read : List Char) :
    (block q read 0).steps (List.replicate n q.mark) = some ([], block q read n) := by
  have hstep : ∀ m < 4, (block q read m).steps [q.mark] = some ([], block q read (m + 1)) := by
    intro m hm
    have hne : m ≠ 4 := Nat.ne_of_lt hm
    simp [steps, step, stepBlock, hne, Outcome.after]
  induction n with
  | zero => rfl
  | succ n ih =>
    rw [List.replicate_succ']
    exact steps_append (ih (Nat.le_of_succ_le h)) (hstep n h)

/-- Three quotation marks close a text on several lines if no other follows. -/
theorem scan_blockClosed (hn : 3 ≤ n) (hrest : rest.head? ≠ some q.mark) (read : List Char) :
    (block q read n).scan rest = (outside.scan rest).map (blockToken q read n :: ·) := by
  apply scan_of_finish
  · exact if_pos hn
  · intro c hc
    have hmark : c ≠ q.mark := fun hmark => hrest (hmark ▸ hc)
    unfold step stepBlock
    exact (if_neg hmark).trans (if_pos hn)

/-- One or two quotation marks before the last three are part of the text. -/
theorem scan_blockEnd (hn : n < 3) (hrest : rest.head? ≠ some q.mark) (read : List Char) :
    (block q read 0).scan (List.replicate n q.mark ++ (List.replicate 3 q.mark ++ rest)) =
      (outside.scan rest).map (.text (read.reverse ++ List.replicate n q.mark) true :: ·) := by
  rw [← List.append_assoc, List.replicate_append_replicate]
  rcases Nat.lt_succ_iff_lt_or_eq.1 hn with hn | rfl
  · rw [scan_append (steps_marks (Nat.add_le_add_right (Nat.le_of_lt_succ hn) 3) read),
      scan_blockClosed (Nat.le_add_left 3 n) hrest, Option.map_map]
    unfold blockToken
    rw [Nat.add_sub_cancel]
    rfl
  · -- A fifth quotation mark closes the text at once.
    have hlast : (block q read 4).steps [q.mark] =
        some ([.text (read.reverse ++ List.replicate 2 q.mark) true], outside) := by
      simp [steps, step, stepBlock, blockToken, Outcome.after]
    have hsteps := steps_append (steps_marks (Nat.le_refl 4) read) hlast
    rw [← List.replicate_succ'] at hsteps
    exact scan_append hsteps rest

/-- One or two quotation marks are part of the text if another character follows. -/
theorem scan_marks (hn : n < 3) (hmark : c ≠ q.mark) (read cs : List Char) :
    (block q read 0).scan (List.replicate n q.mark ++ c :: cs) =
      (block q (List.replicate n q.mark ++ read) 0).scan (c :: cs) := by
  have hopen : ¬ 3 ≤ n := Nat.not_le.2 hn
  have hstep : (block q read n).step c = (block q (List.replicate n q.mark ++ read) 0).step c := by
    simp [step, stepBlock, hmark, hopen]
  rw [scan_of_steps (steps_marks (Nat.le_of_lt (Nat.lt_succ_of_lt hn)) read), scan, scan, hstep]

/-- The blanks and line ends behind a backslash are no part of the text. -/
theorem steps_joined (h : ∀ c ∈ bs, IsGap c) (read : List Char) : (joined read).steps bs = some ([], joined read) := by
  induction bs with
  | nil => rfl
  | cons b bs ih =>
    obtain ⟨hb, hbs⟩ := List.forall_mem_cons.1 h
    have hstep : (joined read).step b = some ([], joined read) := if_pos hb
    rw [steps_cons hstep, ih hbs]
    rfl

theorem steps_joining (h : ∀ c ∈ as, isSpacing c ∨ c = '\r') (read : List Char) :
    (joining read).steps (as ++ ['\n']) = some ([], joined read) := by
  induction as with
  | nil => rfl
  | cons a as ih =>
    obtain ⟨ha, has⟩ := List.forall_mem_cons.1 h
    have hstep : (joining read).step a = some ([], joining read) := if_pos ha
    rw [List.cons_append, steps_cons hstep, ih has]
    rfl

theorem steps_escape_newline (h : ∀ c ∈ as, isSpacing c ∨ c = '\r') (read : List Char) :
    (escape true read).steps (as ++ ['\n']) = some ([], joined read) := by
  cases as with
  | nil => rfl
  | cons a as =>
    obtain ⟨ha, has⟩ := List.forall_mem_cons.1 h
    have hstep : (escape true read).step a = some ([], joining read) := by
      have hblank : a = ' ' ∨ a = '\t' ∨ a = '\r' := by simpa [isSpacing, or_assoc] using ha
      rcases hblank with rfl | rfl | rfl <;> rfl
    rw [List.cons_append, steps_cons hstep, steps_joining has]
    rfl

theorem scan_joined (h : ∀ c ∈ cs.head?, ¬ IsGap c) (hcs : cs ≠ []) (read : List Char) :
    (joined read).scan cs = (block .basic read 0).scan cs := by
  obtain ⟨c, cs, rfl⟩ := List.exists_cons_of_ne_nil hcs
  have hstep : (joined read).step c = (block .basic read 0).step c := if_neg (h c rfl)
  rw [scan, scan, hstep]

theorem scan_blockText (h : BlockText q cs ds) (hrest : rest.head? ≠ some q.mark) (read : List Char) :
    (block q read 0).scan (cs ++ (List.replicate 3 q.mark ++ rest)) =
      (outside.scan rest).map (.text (read.reverse ++ ds) true :: ·) := by
  induction h generalizing read with
  | marks hn => exact scan_blockEnd hn hrest read
  | @char n c cs ds hn hc hmark hback h ih =>
    have hstep : (block q (List.replicate n q.mark ++ read) 0).step c =
        some ([], block q (c :: (List.replicate n q.mark ++ read)) 0) := stepBlock_char (by decide) hmark hback hc _
    rw [List.append_assoc, List.cons_append, scan_marks hn hmark, scan_of_step hstep, ih]
    simp
  | @escape n es cs ds c hn hq hes h ih =>
    subst hq
    have hstep : (block .basic (List.replicate n Quote.basic.mark ++ read) 0).step '\\' =
        some ([], escape true (List.replicate n Quote.basic.mark ++ read)) := rfl
    have hmark : '\\' ≠ Quote.basic.mark := by decide
    rw [List.append_assoc, List.cons_append, scan_marks hn hmark, scan_of_step hstep, List.append_assoc,
      scan_of_steps (steps_escape hes _), resume, if_pos rfl, ih]
    simp
  | @join n as bs cs ds hn hq has hbs hcs h ih =>
    subst hq
    have hstep : (block .basic (List.replicate n Quote.basic.mark ++ read) 0).step '\\' =
        some ([], escape true (List.replicate n Quote.basic.mark ++ read)) := rfl
    have hmark : '\\' ≠ Quote.basic.mark := by decide
    have hgap : ∀ c ∈ (cs ++ (List.replicate 3 Quote.basic.mark ++ rest)).head?, ¬ IsGap c := by
      cases cs with
      | nil =>
        rintro c ⟨⟩
        decide
      | cons c cs => exact hcs
    have hshape : as ++ '\n' :: (bs ++ cs) ++ (List.replicate 3 Quote.basic.mark ++ rest) =
        as ++ ['\n'] ++ (bs ++ (cs ++ (List.replicate 3 Quote.basic.mark ++ rest))) := by simp
    rw [List.append_assoc, List.cons_append, scan_marks hn hmark, scan_of_step hstep, hshape,
      scan_of_steps (steps_escape_newline has _), scan_of_steps (steps_joined hbs _), scan_joined hgap (by simp), ih]
    simp

theorem scan_blockOpened (h : ∀ c ∈ cs.head?, c ≠ '\r' ∧ c ≠ '\n') (hcs : cs ≠ []) :
    (blockOpened q).scan cs = (block q [] 0).scan cs := by
  obtain ⟨c, cs, rfl⟩ := List.exists_cons_of_ne_nil hcs
  obtain ⟨hreturn, hnewline⟩ := h c rfl
  have hstep : (blockOpened q).step c = (block q [] 0).step c := (if_neg hnewline).trans (if_neg hreturn)
  rw [scan, scan, hstep]

end Scanner

/-- A text with its quotation marks is one token, unless another quotation mark follows. -/
theorem TextLiteral.scan (h : TextLiteral cs ds) (hrest : ∀ q : Quote, rest.head? ≠ some q.mark) :
    ∃ multiline, Scanner.outside.scan (cs ++ rest) =
      (Scanner.outside.scan rest).map (.text ds multiline :: ·) := by
  have hopen : ∀ q : Quote, Scanner.outside.steps (List.replicate 3 q.mark) = some ([], .blockOpened q) := by
    intro q
    cases q <;> rfl
  cases h with
  | @line q cs ds h => exact ⟨false, Scanner.scan_lineText h (hrest q)⟩
  | @block q cs ds h hcs =>
    have hhead : ∀ c ∈ (cs ++ (List.replicate 3 q.mark ++ rest)).head?, c ≠ '\r' ∧ c ≠ '\n' := by
      cases cs with
      | nil =>
        rintro c ⟨⟩
        cases q <;> decide
      | cons c cs => exact hcs
    refine ⟨true, ?_⟩
    rw [List.append_assoc, Scanner.scan_of_steps (hopen q), List.append_assoc,
      Scanner.scan_blockOpened hhead (by simp), Scanner.scan_blockText h (hrest q)]
    rfl
  | @blockBelow q cs ds first hfirst h =>
    have hbelow : (Scanner.blockOpened q).steps first = some ([], .block q [] 0) := by
      rcases hfirst with rfl | rfl <;> rfl
    refine ⟨true, ?_⟩
    rw [List.append_assoc, Scanner.scan_of_steps (hopen q), List.append_assoc, Scanner.scan_of_steps hbelow,
      List.append_assoc, Scanner.scan_blockText h (hrest q)]
    rfl

end PointSum.Toml
