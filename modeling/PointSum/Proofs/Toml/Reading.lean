import PointSum.Proofs.Toml.Document
import PointSum.Proofs.Toml.Lines
import PointSum.Toml.Reading

/-!
# Reading a document to its end

* `Reader.Guards key r` : the document read so far guards the key, and the tables in braces that are open are such
  tables; `Guards.step`, `Guards.steps` : reading keeps it so;
* `Reader.exists_step_newline` : where a document may end, a line end may stand, and then another line;
* `Reader.steps_equals` : behind a line end, an equals sign can only stand before a value;
* `read?_equals` : no text is a document with a line behind it that is an equals sign;
* `read?_header` : no document goes on with a header for what has a value in it already.
-/

namespace PointSum.Toml

set_option autoImplicit false

variable {key : String} {cs rest : List Char} {ts us : List Token} {v : Value} {path : Path} {token : Token}

/-- The places behind a line end. -/
def Place.BeginsLine : Place → Prop
  | .line => True
  | .equals _ => True
  | .value => True
  | .item => True
  | .brace => True
  | .separator => True
  | _ => False

/-- If a construct is a table in braces, its table is one in braces. -/
def Construct.IsInline : Construct → Prop
  | .braces t => t.origin = .inline
  | .pair t _ => t.origin = .inline
  | _ => True

theorem isSettled_ofWord? (h : Value.ofWord? cs = some v) : v.IsSettled := by
  unfold Value.ofWord? at h
  split at h
  · cases h; trivial
  · split at h
    · cases h; trivial
    · split at h
      · cases h; trivial
      · split at h
        · cases h; trivial
        · cases h

namespace Reader

variable {r r' : Reader} {c : Construct} {place : Place} {use : KeyUse}

theorem steps_cons (r : Reader) (t : Token) (ts : List Token) :
    r.steps (t :: ts) = (r.step t).bind fun r => r.steps ts := List.foldlM_cons

theorem exists_of_steps_cons (h : r.steps (token :: ts) = some r') :
    ∃ q, r.step token = some q ∧ q.steps ts = some r' := by
  rw [steps_cons] at h
  exact Option.bind_eq_some_iff.1 h

theorem steps_append (r : Reader) (ts us : List Token) : r.steps (ts ++ us) = (r.steps ts).bind fun r => r.steps us :=
  List.foldlM_append

/-! ## What reading guards -/

/-- The document read so far guards the key, and the open tables in braces are such tables. -/
structure Guards (key : String) (r : Reader) : Prop where
  document : r.document.Guards key
  stack : ∀ c ∈ r.stack, c.IsInline

theorem guards_start (key : String) : start.Guards key := by
  constructor
  · exact Document.guards_empty key
  · intro c hc
    cases hc

theorem Guards.complete (hr : r.Guards key) (h : r.complete v = some r') (hv : v.IsSettled) : r'.Guards key := by
  unfold Reader.complete at h
  have hstack := hr.stack
  split at h
  · next path stack hs =>
    rw [hs, List.forall_mem_cons] at hstack
    obtain ⟨d, hd, rfl⟩ := Option.map_eq_some_iff.1 h
    exact ⟨hr.document.assign hv hd, hstack.2⟩
  · next items stack hs =>
    cases h
    rw [hs, List.forall_mem_cons] at hstack
    exact ⟨hr.document, List.forall_mem_cons.2 ⟨trivial, hstack.2⟩⟩
  · next table path stack hs =>
    rw [hs, List.forall_mem_cons] at hstack
    obtain ⟨t, ht, rfl⟩ := Option.map_eq_some_iff.1 h
    have horigin : t.origin = .inline := (Table.origin_assign ht).trans hstack.1
    exact ⟨hr.document, List.forall_mem_cons.2 ⟨horigin, hstack.2⟩⟩
  · cases h

theorem Guards.close (hr : r.Guards key) (h : r.close = some r') : r'.Guards key := by
  unfold Reader.close at h
  have hstack := hr.stack
  split at h
  · next items stack hs =>
    rw [hs, List.forall_mem_cons] at hstack
    have hr' : Guards key { r with stack } := ⟨hr.document, hstack.2⟩
    exact hr'.complete h trivial
  · next table stack hs =>
    rw [hs, List.forall_mem_cons] at hstack
    have hr' : Guards key { r with stack } := ⟨hr.document, hstack.2⟩
    have horigin : table.origin = .inline := hstack.1
    apply hr'.complete h
    simp [Value.IsSettled, horigin]
  · cases h

theorem Guards.push (hr : r.Guards key) (h : r.push c place = some r') (hc : c.IsInline) : r'.Guards key := by
  unfold Reader.push at h
  split at h
  · cases h
    exact ⟨hr.document, List.forall_mem_cons.2 ⟨hc, hr.stack⟩⟩
  · cases h

theorem Guards.stepValue (hr : r.Guards key) (h : r.stepValue token = some r') : r'.Guards key := by
  cases token with
  | word cs =>
    cases h
    exact ⟨hr.document, hr.stack⟩
  | text cs multiline => exact hr.complete h trivial
  | openBracket => exact hr.push h trivial
  | openBrace => exact hr.push h rfl
  | _ => cases h

theorem Guards.stepKey (hr : r.Guards key) (h : r.stepKey use path token = some r') : r'.Guards key := by
  unfold Reader.stepKey at h
  split at h
  · obtain ⟨k, -, rfl⟩ := Option.map_eq_some_iff.1 h
    exact ⟨hr.document, hr.stack⟩
  · cases h

theorem Guards.stepEquals (hr : r.Guards key) (h : r.stepEquals path = some r') : r'.Guards key := by
  unfold Reader.stepEquals at h
  have hstack := hr.stack
  split at h
  · cases h
    exact ⟨hr.document, List.forall_mem_cons.2 ⟨trivial, by simp⟩⟩
  · next table stack hs =>
    cases h
    rw [hs, List.forall_mem_cons] at hstack
    exact ⟨hr.document, List.forall_mem_cons.2 ⟨hstack.1, hstack.2⟩⟩
  · cases h

theorem Guards.stepKeyEnd (hr : r.Guards key) (h : r.stepKeyEnd use path token = some r') : r'.Guards key := by
  unfold Reader.stepKeyEnd at h
  split at h
  · cases h
    exact hr
  · split at h
    · cases h
      exact ⟨hr.document, hr.stack⟩
    · cases h
  · cases h
    exact ⟨hr.document, hr.stack⟩
  · split at h
    · exact hr.stepEquals h
    · cases h
  · split at h
    · cases h
    · obtain ⟨d, hd, rfl⟩ := Option.map_eq_some_iff.1 h
      exact ⟨hr.document.atHeader Table.putsTable_declareHere hd, hr.stack⟩
    · cases h
      exact ⟨hr.document, hr.stack⟩
  · cases h

theorem Guards.stepAfter (hr : r.Guards key) (h : r.stepAfter token = some r') : r'.Guards key := by
  unfold Reader.stepAfter at h
  split at h
  · cases h; exact hr
  · cases h; exact ⟨hr.document, hr.stack⟩
  · cases h; exact hr
  · cases h; exact hr
  · split at h
    · cases h; exact ⟨hr.document, hr.stack⟩
    · cases h; exact ⟨hr.document, hr.stack⟩
    · cases h
  · split at h
    · exact hr.close h
    · cases h
  · split at h
    · exact hr.close h
    · cases h
  · cases h

theorem Guards.completeWord (hr : r.Guards key) (h : r.completeWord cs = some r') : r'.Guards key := by
  obtain ⟨v, hv, h⟩ := Option.bind_eq_some_iff.1 h
  exact hr.complete h (isSettled_ofWord? hv)

theorem Guards.step (hr : r.Guards key) (h : r.step token = some r') : r'.Guards key := by
  -- The cases are those of the place, and in it those of the token.
  unfold Reader.step at h
  split at h
  · split at h
    · cases h; exact hr
    · cases h; exact hr
    · cases h; exact ⟨hr.document, hr.stack⟩
    · exact hr.stepKey h
  · split at h
    · cases h; exact ⟨hr.document, hr.stack⟩
    · cases h; exact ⟨hr.document, hr.stack⟩
    · exact hr.stepKey h
  · split at h
    · cases h; exact hr
    · exact hr.stepKey h
  · exact hr.stepKeyEnd h
  · split at h
    · cases h; exact hr
    · cases h; exact hr
    · exact hr.stepEquals h
    · cases h
  · split at h
    · obtain ⟨d, hd, rfl⟩ := Option.map_eq_some_iff.1 h
      exact ⟨hr.document.atHeader Table.putsTable_appendHere hd, hr.stack⟩
    · cases h
  · split at h
    · cases h; exact hr
    · exact hr.stepValue h
  · split at h
    · cases h; exact hr
    · cases h; exact hr
    · exact hr.close h
    · exact hr.stepValue h
  · split at h
    · cases h; exact hr
    · cases h; exact hr
    · exact hr.close h
    · exact hr.stepKey h
  · split at h
    · cases h; exact ⟨hr.document, hr.stack⟩
    · cases h; exact ⟨hr.document, hr.stack⟩
    · obtain ⟨q, hq, h⟩ := Option.bind_eq_some_iff.1 h
      exact (hr.completeWord hq).stepAfter h
  · exact hr.stepAfter h
  · exact hr.stepAfter h

theorem Guards.steps (hr : r.Guards key) (h : r.steps ts = some r') : r'.Guards key := by
  induction ts generalizing r with
  | nil =>
    cases h
    exact hr
  | cons t ts ih =>
    obtain ⟨q, hq, h⟩ := exists_of_steps_cons h
    exact ih (hr.step hq) h

/-! ## Line ends -/

/-- Where a document may end, a line end may stand instead, and then another line. -/
theorem exists_step_newline {d : Document} (h : r.finish = some d) :
    ∃ r', r.step .newline = some r' ∧ r'.document = d ∧ r'.place = .line := by
  unfold Reader.finish at h
  unfold Reader.step
  split at h
  · next hplace =>
    cases h
    simp only [hplace]
    exact ⟨r, rfl, rfl, hplace⟩
  · next hplace =>
    cases h
    simp only [hplace]
    exact ⟨{ r with place := .line }, by simp [Reader.stepAfter, hplace], rfl, rfl⟩
  · next read hplace =>
    obtain ⟨q, hq, h⟩ := Option.bind_eq_some_iff.1 h
    split at h
    · next hq' =>
      cases h
      simp only [hplace, hq, Option.bind_some]
      exact ⟨{ q with place := .line }, by simp [Reader.stepAfter, hq'], rfl, rfl⟩
    · cases h
  · cases h

theorem beginsLine_of_stepAfter (h : r.stepAfter .newline = some r') : r'.place.BeginsLine := by
  unfold Reader.stepAfter at h
  cases hplace : r.place with
  | lineEnd =>
    simp only [hplace] at h
    cases h
    trivial
  | separator =>
    simp only [hplace] at h
    cases h
    rw [hplace]
    trivial
  | _ => simp [hplace] at h

theorem beginsLine_of_step (h : r.step .newline = some r') : r'.place.BeginsLine := by
  unfold Reader.step at h
  cases hplace : r.place with
  | line =>
    simp only [hplace] at h
    cases h
    rw [hplace]
    trivial
  | lineEnd =>
    simp only [hplace] at h
    exact beginsLine_of_stepAfter h
  | header => simp [hplace, Reader.stepKey, Token.key?] at h
  | keyPart use path => simp [hplace, Reader.stepKey, Token.key?] at h
  | keyEnd use path =>
    simp only [hplace, Reader.stepKeyEnd] at h
    split at h
    · cases h
      trivial
    · cases h
  | equals path =>
    simp only [hplace] at h
    cases h
    rw [hplace]
    trivial
  | headerEnd path => simp [hplace] at h
  | value =>
    simp only [hplace] at h
    split at h
    · cases h
      rw [hplace]
      trivial
    · cases h
  | item =>
    simp only [hplace] at h
    cases h
    rw [hplace]
    trivial
  | brace =>
    simp only [hplace] at h
    cases h
    rw [hplace]
    trivial
  | word read =>
    simp only [hplace] at h
    obtain ⟨q, -, h⟩ := Option.bind_eq_some_iff.1 h
    exact beginsLine_of_stepAfter h
  | separator =>
    simp only [hplace] at h
    exact beginsLine_of_stepAfter h

/-- Behind a line end an equals sign can only be that of a key, so that a value has to follow. -/
theorem place_of_step_equals (hr : r.place.BeginsLine) (h : r.step .equals = some r') : r'.place = .value := by
  unfold Reader.step at h
  cases hplace : r.place with
  | line => simp [hplace, Reader.stepKey, Token.key?] at h
  | equals path =>
    simp only [hplace, Reader.stepEquals] at h
    split at h
    · cases h; rfl
    · cases h; rfl
    · cases h
  | value => simp [hplace, Reader.stepValue] at h
  | item => simp [hplace, Reader.stepValue] at h
  | brace => simp [hplace, Reader.stepKey, Token.key?] at h
  | separator => simp [hplace, Reader.stepAfter] at h
  | _ =>
    rw [hplace] at hr
    cases hr

theorem place_of_steps_newlines {n : Nat} (hr : r.place = .value) (h : r.steps (List.replicate n .newline) = some r') :
    r'.place = .value := by
  induction n generalizing r with
  | zero =>
    cases h
    exact hr
  | succ n ih =>
    obtain ⟨q, hq, h⟩ := exists_of_steps_cons h
    refine ih ?_ h
    unfold Reader.step at hq
    simp only [hr] at hq
    split at hq
    · cases hq
      exact hr
    · cases hq

theorem steps_header {k : List Char} (hr : r.place = .line) (hk : IsBareKey k) :
    r.steps [.openBracket, .word k, .closeBracket] =
      (r.document.openTable [.ofList k]).map fun document => { r with document, place := .lineEnd } := by
  have hkey : (Token.word k).key? = some (.ofList k) := if_pos (List.all_eq_true.2 hk.2)
  have hopen : r.step .openBracket = some { r with place := .header } := by
    unfold Reader.step
    simp only [hr]
  have hword : Reader.step { r with place := .header } (.word k) =
      some { r with place := .keyEnd .table [.ofList k] } := by
    unfold Reader.step Reader.stepKey
    rw [hkey]
    rfl
  have hclose : Reader.step { r with place := .keyEnd .table [.ofList k] } .closeBracket =
      (r.document.openTable [.ofList k]).map fun document => { r with document, place := .lineEnd } := by
    unfold Reader.step
    rfl
  rw [steps_cons, hopen, Option.bind_some, steps_cons, hword, Option.bind_some, steps_cons, hclose]
  exact Option.bind_fun_some _

end Reader

/-! ## Whole documents -/

theorem read?_eq_some_iff {root : Table Value} : read? cs = some root ↔
    ∃ ts r d, tokens? cs = some ts ∧ Reader.start.steps ts = some r ∧ r.finish = some d ∧ d.root = root := by
  unfold read?
  simp only [Option.bind_eq_bind, Option.bind_eq_some_iff, Option.pure_def, Option.some.injEq]
  constructor
  · rintro ⟨ts, hts, r, hr, d, hd, hroot⟩
    exact ⟨ts, r, d, hts, hr, hd, hroot⟩
  · rintro ⟨ts, r, d, hts, hr, hd, hroot⟩
    exact ⟨ts, hts, r, hr, d, hd, hroot⟩

/-- What is read behind a beginning of a document that has been scanned and read. -/
theorem exists_of_read?_append {as bs : List Char} {r : Reader} {root : Table Value}
    (has : Scanner.outside.steps as = some (ts, .outside)) (hr : Reader.start.steps ts = some r) (hne : as ≠ [])
    (hmark : as.head? ≠ some byteOrderMark) (h : read? (as ++ bs) = some root) :
    ∃ us r' d, Scanner.outside.scan bs = some us ∧ r.steps us = some r' ∧ r'.finish = some d ∧ d.root = root := by
  obtain ⟨us, r', d, hus, hr', hd, hroot⟩ := read?_eq_some_iff.1 h
  have hscan := scan_of_tokens? hus
  obtain ⟨a, as, rfl⟩ := List.exists_cons_of_ne_nil hne
  have hhead : (a :: as ++ bs).head? ≠ some byteOrderMark := hmark
  rw [withoutMark_of_head? hhead, Scanner.scan_append has] at hscan
  obtain ⟨vs, hvs, rfl⟩ := Option.map_eq_some_iff.1 hscan
  rw [Reader.steps_append, hr, Option.bind_some] at hr'
  exact ⟨vs, r', d, hvs, hr', hd, hroot⟩

/-- No text is a document with a line behind it that is an equals sign, with or without line ends at the end. -/
theorem read?_equals (cs : List Char) (n : Nat) : read? (cs ++ '\n' :: '=' :: List.replicate n '\n') = none := by
  rw [Option.eq_none_iff_forall_ne_some]
  intro root h
  obtain ⟨ts, r, d, hts, hr, hd, -⟩ := read?_eq_some_iff.1 h
  obtain ⟨us, rfl⟩ := tokens?_equals hts
  rw [Reader.steps_append] at hr
  obtain ⟨r₁, -, hr⟩ := Option.bind_eq_some_iff.1 hr
  obtain ⟨r₂, hnewline, hr⟩ := Reader.exists_of_steps_cons hr
  obtain ⟨r₃, hequals, hr⟩ := Reader.exists_of_steps_cons hr
  have hvalue := Reader.place_of_step_equals (Reader.beginsLine_of_step hnewline) hequals
  have hlast := Reader.place_of_steps_newlines hvalue hr
  simp [Reader.finish, hlast] at hd

/-- A document does not go on, behind a line end, with a header for a key whose value is no table, or is a table with
such a value in it; whatever follows. -/
theorem read?_header {root : Table Value} {k : List Char} (h : read? cs = some root) (hk : IsBareKey k)
    (hget : root.get? (.ofList k) = some v) (hv : ∀ t, v = .table t → ∃ j w, t.get? j = some w ∧ ¬ w.IsTable)
    (rest : List Char) : read? (cs ++ '\n' :: ('[' :: k ++ [']']) ++ rest) = none := by
  rw [Option.eq_none_iff_forall_ne_some]
  intro root' h'
  obtain ⟨ts, r, d, hts, hr, hd, rfl⟩ := read?_eq_some_iff.1 h
  obtain ⟨us, r', -, hus, hr', -, -⟩ := read?_eq_some_iff.1 h'
  rw [List.append_assoc, List.cons_append] at hus
  obtain ⟨vs, hvs, rfl⟩ := tokens?_line hts hus
  rw [Scanner.scan_append (Scanner.steps_header hk)] at hvs
  obtain ⟨ws, -, rfl⟩ := Option.map_eq_some_iff.1 hvs
  rw [Reader.steps_append, hr, Option.bind_some] at hr'
  obtain ⟨q, hq, hr'⟩ := Reader.exists_of_steps_cons hr'
  -- The reader is at the beginning of a line, behind all of the first document.
  obtain ⟨q', hq', rfl, hplace⟩ := Reader.exists_step_newline hd
  obtain rfl : q = q' := Option.some.inj (hq.symm.trans hq')
  have hguards := ((Reader.guards_start (.ofList k)).steps hr).step hq
  have hnone := Document.openTable_eq_none hguards.document hget hv
  rw [Reader.steps_append, Reader.steps_header hplace hk, hnone] at hr'
  cases hr'

end PointSum.Toml
