import PointSum.Proofs.Toml.DecimalInteger
import PointSum.Proofs.Toml.Plain
import PointSum.Proofs.Toml.TextLiteral

/-!
# Documents that go on

* `Reads cs d` : the text is read to its end, and `d` is the document it holds;
* `Document.line d ts` : the document with one more line of tokens; `Reads.line` : a line behind a text is read so, for
  all of the text before it is closed;
* `LineValue cs` : a decimal integer of sixty-four bits, a truth value, or a text between double quotes on one line;
* `Reads.blank`, `Reads.comment`, `Reads.header`, `Reads.pair` : an empty line, a comment, a header, and a key with its
  value;
* `Fills pairs t` : the table that keys with their values make; `Reads.table` : a header of a new table, and such keys
  below it, change nothing but that they add the table.
-/

namespace PointSum.Toml

set_option autoImplicit false

variable {cs as bs k v : List Char} {ts us : List Token} {d d' : Document} {w : Value} {root t : Table Value}
  {key j : String}

/-! ## One more line -/

/-- The text is read to its end, and the document is what it holds. -/
def Reads (cs : List Char) (d : Document) : Prop :=
  ∃ ts r, tokens? cs = some ts ∧ Reader.start.steps ts = some r ∧ r.finish = some d

/-- The document with one more line of tokens. -/
def Document.line (d : Document) (ts : List Token) : Option Document :=
  (Reader.steps ⟨d, [], .line⟩ ts).bind Reader.finish

theorem exists_reads (h : read? cs = some root) : ∃ d, Reads cs d ∧ d.root = root := by
  obtain ⟨ts, r, d, hts, hr, hd, hroot⟩ := read?_eq_some_iff.1 h
  exact ⟨d, ⟨ts, r, hts, hr, hd⟩, hroot⟩

theorem Reads.read? (h : Reads cs d) : read? cs = some d.root := by
  obtain ⟨ts, r, hts, hr, hd⟩ := h
  exact read?_eq_some_iff.2 ⟨ts, r, d, hts, hr, hd, rfl⟩

theorem returnsPaired_append (has : returnsPaired as) (hbs : returnsPaired bs) : returnsPaired (as ++ bs) := by
  induction as with
  | nil => exact hbs
  | cons a as ih =>
    cases as with
    | nil =>
      have ha : a ≠ '\r' := of_decide_eq_true has
      cases bs with
      | nil => exact has
      | cons b bs => simp [returnsPaired, ha, hbs]
    | cons b as =>
      rw [returnsPaired, Bool.and_eq_true] at has
      rw [List.cons_append, List.cons_append, returnsPaired, Bool.and_eq_true]
      exact ⟨has.1, ih has.2⟩

/-- At the end of a line nothing is open. -/
theorem Reader.exists_step_newline_line {r : Reader} (hr : r.Ordered) (h : r.finish = some d) :
    r.step .newline = some ⟨d, [], .line⟩ := by
  obtain ⟨q, hq, rfl, hplace⟩ := Reader.exists_step_newline h
  have hline : q.place.OnLine := by
    rw [hplace]
    trivial
  have hstack := (hr.leads (Reader.leads_step hq)).line hline
  obtain ⟨document, stack, place⟩ := q
  obtain rfl : place = .line := hplace
  obtain rfl : stack = [] := hstack
  exact hq

/-- A line behind a text is read from the beginning of a line, with all that the text holds. -/
theorem Reads.line (h : Reads cs d) (hpaired : returnsPaired as) (hscan : Scanner.outside.scan as = some us)
    (hline : d.line us = some d') : Reads (cs ++ '\n' :: as) d' := by
  obtain ⟨ts, r, hts, hr, hd⟩ := h
  obtain ⟨hcs, hscs⟩ := Option.ite_none_right_eq_some.1 hts
  obtain ⟨ws, s, vs, hsteps, hfinish, rfl⟩ := Scanner.exists_of_scan hscs
  obtain ⟨r', hr', hd'⟩ := Option.bind_eq_some_iff.1 hline
  refine ⟨ws ++ vs ++ .newline :: us, r', ?_, ?_, hd'⟩
  · have hnewline : returnsPaired ('\n' :: as) := returnsPaired_append (show returnsPaired ['\n'] from rfl) hpaired
    rw [tokens?, if_pos (returnsPaired_append hcs hnewline), withoutMark_line, Scanner.scan_append hsteps,
      Scanner.scan_cons (Scanner.step_newline_of_finish hfinish), hscan]
    simp
  · have hordered := Reader.ordered_start.leads (Reader.leads_steps hr)
    rw [Reader.steps_append, hr, Option.bind_some, Reader.steps_cons, Reader.exists_step_newline_line hordered hd]
    exact hr'

/-! ## Lines that add nothing -/

theorem Reads.blank (h : Reads cs d) : Reads (cs ++ ['\n']) d := h.line rfl rfl rfl

theorem Scanner.steps_comment (h : ∀ c ∈ cs, isTextChar c) : comment.steps cs = some ([], comment) := by
  induction cs with
  | nil => rfl
  | cons c cs ih =>
    obtain ⟨hc, hcs⟩ := List.forall_mem_cons.1 h
    have hnewline : c ≠ '\n' := by
      rintro rfl
      exact absurd hc (by decide)
    have hstep : comment.step c = some ([], comment) := (if_neg hnewline).trans (if_pos (.inl hc))
    rw [steps_cons hstep, ih hcs]
    rfl

theorem Reads.comment (h : Reads cs d) (hcomment : ∀ c ∈ as, isTextChar c) : Reads (cs ++ '\n' :: '#' :: as) d := by
  have hreturn : '\r' ∉ '#' :: as := by
    rw [List.mem_cons, not_or]
    refine ⟨by decide, fun hmem => ?_⟩
    exact absurd (hcomment _ hmem) (by decide)
  have hopen : Scanner.outside.step '#' = some ([], .comment) := rfl
  have hscan : Scanner.outside.scan ('#' :: as) = some [] := by
    rw [Scanner.scan_of_step hopen, ← List.append_nil as, Scanner.scan_of_steps (Scanner.steps_comment hcomment)]
    rfl
  exact h.line (returnsPaired_of_not_mem hreturn) hscan rfl

/-! ## Headers -/

theorem return_not_mem_of_bare (hk : IsBareKey k) : '\r' ∉ k := fun hmem => absurd (hk.2 _ hmem) (by decide)

theorem Reads.header (h : Reads cs d) (hk : IsBareKey k) (hd : d.openTable [.ofList k] = some d') :
    Reads (cs ++ '\n' :: ('[' :: k ++ [']'])) d' := by
  have hreturn : '\r' ∉ '[' :: k ++ [']'] := by
    simp [return_not_mem_of_bare hk]
  have hscan : Scanner.outside.scan ('[' :: k ++ [']']) = some [.openBracket, .word k, .closeBracket] := by
    rw [← List.append_nil ('[' :: k ++ [']']), Scanner.scan_append (Scanner.steps_header hk)]
    rfl
  refine h.line (returnsPaired_of_not_mem hreturn) hscan ?_
  rw [Document.line, Reader.steps_header rfl hk, hd]
  rfl

/-! ## Keys with their values -/

/-- A decimal integer of sixty-four bits, a truth value, or a text between double quotes on one line. -/
inductive LineValue : List Char → Prop where
  | integer {v : List Char} {n : Int} (h : DecimalInteger v n) (hn : Number.WordFormat.int64.Holds n) : LineValue v
  | boolean {v : List Char} (h : BooleanLiteral v) : LineValue v
  | text {cs ds : List Char} (h : LineText .basic cs ds) : LineValue ('"' :: (cs ++ ['"']))

/-- A text, a truth value, or a number that can be read. -/
def Value.IsSimple : Value → Prop
  | .text _ => True
  | .boolean _ => True
  | .number n => n.isReadable
  | _ => False

theorem finish_word (h : Value.ofWord? v = some w) (d : Document) (path : Path) :
    Reader.finish ⟨d, [.entry path], .word v⟩ = d.assign path w := by
  simp only [Reader.finish, Reader.completeWord, h, Option.bind_some, Reader.complete]
  cases d.assign path w with
  | none => rfl
  | some d' => rfl

/-- A plain text at the end of a line goes to the key at its beginning. -/
theorem exists_steps_assign (hv : IsPlain v) (h : Value.ofWord? v = some w) :
    ∃ us, Scanner.outside.scan v = some us ∧
      ∀ d path, (Reader.steps ⟨d, [.entry path], .value⟩ us).bind Reader.finish = d.assign path w := by
  obtain ⟨ts, s, us, hsteps, hfinish, hspells⟩ := Scanner.exists_steps_plain hv
  refine ⟨ts ++ us, ?_, fun d path => ?_⟩
  · rw [← List.append_nil v, Scanner.scan_append hsteps, Scanner.scan, hfinish]
    rfl
  · rw [Reader.steps_plain rfl hv hspells, Option.bind_some]
    exact finish_word h d path

theorem LineValue.exists_steps (h : LineValue v) :
    ∃ w us, w.IsSimple ∧ Scanner.outside.scan v = some us ∧
      ∀ d path, (Reader.steps ⟨d, [.entry path], .value⟩ us).bind Reader.finish = d.assign path w := by
  cases h with
  | integer h hn =>
    obtain ⟨m, hm, hreadable⟩ := h.exists_ofWord? hn
    obtain ⟨us, hscan, hsteps⟩ := exists_steps_assign h.isInteger.isPlain hm
    exact ⟨.number m, us, hreadable, hscan, hsteps⟩
  | boolean h =>
    have hboolean : ∃ b, Value.ofWord? v = some (.boolean b) := by
      rcases h with rfl | rfl
      · exact ⟨true, rfl⟩
      · exact ⟨false, rfl⟩
    obtain ⟨b, hb⟩ := hboolean
    obtain ⟨us, hscan, hsteps⟩ := exists_steps_assign h.isPlain hb
    exact ⟨.boolean b, us, trivial, hscan, hsteps⟩
  | @text cs ds h =>
    refine ⟨.text (.ofList ds), [.text ds false], trivial, ?_, fun d path => ?_⟩
    · have hrest : ([] : List Char).head? ≠ some Quote.basic.mark := by decide
      have hscan := Scanner.scan_lineText h hrest
      rwa [List.append_nil] at hscan
    · have hstep : Reader.step ⟨d, [.entry path], .value⟩ (.text ds false) =
          (d.assign path (.text (.ofList ds))).map fun d => ⟨d, [], .lineEnd⟩ := rfl
      rw [Reader.steps_cons, hstep]
      cases d.assign path (.text (.ofList ds)) with
      | none => rfl
      | some d' => rfl

theorem LineValue.return_not_mem (h : LineValue v) : '\r' ∉ v := by
  have hplain : IsPlain v → '\r' ∉ v := fun hv hmem => absurd (hv.chars _ hmem) (by decide)
  cases h with
  | integer h hn => exact hplain h.isInteger.isPlain
  | boolean h => exact hplain h.isPlain
  | text h => simp [h.return_not_mem]

/-- The text of a key without quotes and its value. -/
def pairText (k v : List Char) : List Char :=
  k ++ (" = ".toList ++ v)

theorem Scanner.steps_key (hk : IsBareKey k) :
    outside.steps (k ++ " = ".toList) = some ([.word k, .blank, .equals, .blank], outside) := by
  obtain ⟨hne, hk⟩ := hk
  obtain ⟨c, k, rfl⟩ := List.exists_cons_of_ne_nil hne
  obtain ⟨hc, hk⟩ := List.forall_mem_cons.1 hk
  have hword := steps_word (fun d hd => isWordStart_of_bare (hk d hd)) [c]
  have hequals : (word (k.reverse ++ [c]) []).steps " = ".toList =
      some ([.word (c :: k), .blank, .equals, .blank], outside) := by
    have hspacing : isSpacing '=' = false := rfl
    have hstart : isWordStart '=' = false := rfl
    have hspace : isSpacing ' ' = true := rfl
    have hblank : stepOutside ' ' = some ([.blank], outside) := rfl
    have hstep : stepOutside '=' = some ([.equals], outside) := rfl
    simp [steps, step, stepWord, hspacing, hstart, hspace, hblank, hstep, Outcome.after]
  rw [List.cons_append, steps_cons (step_outside_of_wordStart (isWordStart_of_bare hc)), steps_append hword hequals]
  rfl

theorem Reader.steps_key (hk : IsBareKey k) (d : Document) :
    Reader.steps ⟨d, [], .line⟩ [.word k, .blank, .equals, .blank] = some ⟨d, [.entry [.ofList k]], .value⟩ := by
  have hkey : (Token.word k).key? = some (.ofList k) := if_pos (List.all_eq_true.2 hk.2)
  have hword : Reader.step ⟨d, [], .line⟩ (.word k) = some ⟨d, [], .keyEnd .value [.ofList k]⟩ := by
    unfold Reader.step Reader.stepKey
    rw [hkey]
    rfl
  rw [Reader.steps_cons, hword]
  rfl

theorem Reads.pair (h : Reads cs d) (hk : IsBareKey k) (hv : LineValue v) :
    ∃ w, w.IsSimple ∧ ∀ d', d.assign [.ofList k] w = some d' → Reads (cs ++ '\n' :: pairText k v) d' := by
  obtain ⟨w, us, hw, hscan, hsteps⟩ := hv.exists_steps
  refine ⟨w, hw, fun d' hd' => ?_⟩
  have hreturn : '\r' ∉ pairText k v := by
    simp [pairText, return_not_mem_of_bare hk, hv.return_not_mem]
  have hline : Scanner.outside.scan (pairText k v) = some ([.word k, .blank, .equals, .blank] ++ us) := by
    rw [pairText, ← List.append_assoc, Scanner.scan_append (Scanner.steps_key hk), hscan]
    rfl
  refine h.line (returnsPaired_of_not_mem hreturn) hline ?_
  rw [Document.line, Reader.steps_append, Reader.steps_key hk, Option.bind_some, hsteps, hd']

/-! ## New tables -/

namespace Table

theorem put_put (t : Table Value) (key : String) (v w : Value) : (t.put key v).put key w = t.put key w := by
  have hentries : ∀ es : List (String × Value), putEntry key w (putEntry key v es) = putEntry key w es := by
    intro es
    induction es with
    | nil => simp [putEntry]
    | cons e es ih =>
      obtain ⟨j, u⟩ := e
      by_cases hj : j = key
      · simp [putEntry, hj]
      · simp [putEntry, hj, ih]
  unfold put
  rw [hentries]

end Table

namespace Document

theorem openTable_new (h : d.root.get? key = none) :
    d.openTable [key] = some ⟨d.root.put key (.table (.empty .declared)), [key]⟩ := by
  simp [openTable, atHeader, Table.alter, Table.declareHere, h]

theorem assign_new (ht : t.origin = .declared) (h : t.get? j = none) :
    assign ⟨root.put key (.table t), [key]⟩ [j] w = some ⟨root.put key (.table (t.put j w)), [key]⟩ := by
  simp [assign, Table.alter, Table.assign, Table.assignHere, ht, h, Table.put_put]

end Document

/-- The header of a table, and below it the keys with their values, a line each. -/
def tableText (k : List Char) (pairs : List (List Char × List Char)) : List Char :=
  '[' :: k ++ [']'] ++ pairs.flatMap fun p => '\n' :: pairText p.1 p.2

theorem tableText_concat (k : List Char) (pairs : List (List Char × List Char)) (p : List Char × List Char) :
    tableText k (pairs ++ [p]) = tableText k pairs ++ '\n' :: pairText p.1 p.2 := by
  simp [tableText]

/-- The table has simple values, and no keys but those of the pairs. -/
structure Fills (pairs : List (List Char × List Char)) (t : Table Value) : Prop where
  origin : t.origin = .declared
  simple : ∀ e ∈ t.entries, e.2.IsSimple
  fresh : ∀ j, j ∉ pairs.map Prod.fst → t.get? (.ofList j) = none

theorem fills_nil : Fills [] (.empty .declared) := by
  constructor
  · rfl
  · intro e he
    cases he
  · exact fun j _ => rfl

theorem Fills.put {pairs : List (List Char × List Char)} (ht : Fills pairs t) (hw : w.IsSimple)
    (p : List Char × List Char) : Fills (pairs ++ [p]) (t.put (.ofList p.1) w) := by
  constructor
  · exact ht.origin
  · intro e he
    rcases Table.mem_putEntry he with rfl | he
    · exact hw
    · exact ht.simple e he
  · intro j hj
    rw [List.map_append, List.mem_append, not_or] at hj
    have hne : String.ofList j ≠ .ofList p.1 := by
      intro heq
      exact hj.2 (List.mem_singleton.2 (String.ofList_injective heq))
    rw [Table.get?_put_of_ne hne]
    exact ht.fresh j hj.1

/-- The header of a new table, with keys and values, adds the table and changes nothing else. -/
theorem Reads.table {pairs : List (List Char × List Char)} (h : Reads cs d) (hk : IsBareKey k)
    (hnew : d.root.get? (.ofList k) = none) (hpairs : ∀ p ∈ pairs, IsBareKey p.1 ∧ LineValue p.2)
    (hnodup : (pairs.map Prod.fst).Nodup) :
    ∃ t, Reads (cs ++ '\n' :: tableText k pairs) ⟨d.root.put (.ofList k) (.table t), [.ofList k]⟩ ∧
      Fills pairs t := by
  -- The last pair is the last line, so that the lines before it are a table themselves.
  induction pairs using List.reverseRecOn with
  | nil =>
    refine ⟨.empty .declared, ?_, fills_nil⟩
    have hheader := h.header hk (Document.openTable_new hnew)
    rwa [← List.append_nil ('[' :: k ++ [']'])] at hheader
  | append_singleton pairs p ih =>
    rw [List.forall_mem_append] at hpairs
    rw [List.map_append, List.nodup_append] at hnodup
    obtain ⟨hnodup, -, hdisjoint⟩ := hnodup
    have hfresh : p.1 ∉ pairs.map Prod.fst := fun hmem => hdisjoint _ hmem _ List.mem_cons_self rfl
    obtain ⟨hkey, hvalue⟩ := hpairs.2 p List.mem_cons_self
    obtain ⟨t, hreads, ht⟩ := ih hpairs.1 hnodup
    obtain ⟨w, hw, hpair⟩ := hreads.pair hkey hvalue
    have hline := hpair _ (Document.assign_new ht.origin (ht.fresh p.1 hfresh))
    rw [List.append_assoc, List.cons_append, ← tableText_concat] at hline
    exact ⟨t.put (.ofList p.1) w, hline, ht.put hw p⟩

end PointSum.Toml
