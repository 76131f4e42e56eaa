import Mathlib.Logic.Relation
import PointSum.Proofs.Toml.Lasting
import PointSum.Proofs.Toml.Reading

/-!
# What a step of reading changes

* `Reader.Change r r'` : the ways in which reading changes the document and the open constructs; `Reader.Leads` : one
  change after another;
* `leads_step`, `leads_steps`, `leads_finish` : tokens, and the end of the document, lead to a state by such changes and
  in no other way;
* `Reader.Ordered r` : no construct is open behind a line, and below a key at the beginning of a line there is none;
  `Ordered.leads` : so it always is;
* `Leads.keeps` : what was written stays in the document.
-/

namespace PointSum.Toml

set_option autoImplicit false

variable {cs read : List Char} {ts : List Token} {v : Value} {path : Path} {token : Token}

/-- The place is on a line but not in a value. Keys are not counted here, which may also stand in braces. -/
def Place.OnLine : Place → Prop
  | .line => True
  | .lineEnd => True
  | .header => True
  | .keyPart use _ => use ≠ .value
  | .keyEnd use _ => use ≠ .value
  | .headerEnd _ => True
  | _ => False

/-- A value without quotes has begun. -/
def Place.InWord : Place → Prop
  | .word _ => True
  | _ => False

def Value.IsText : Value → Prop
  | .text _ => True
  | _ => False

def Construct.IsEntry : Construct → Prop
  | .entry _ => True
  | _ => False

/-- The value that an array or a table in braces is when it is closed. -/
def Construct.value? : Construct → Option Value
  | .array items => some (.array items.reverse)
  | .braces t => some (.table t)
  | _ => none

theorem ofWord?_cases (h : Value.ofWord? cs = some v) :
    (∃ b, v = .boolean b) ∨ (∃ n, v = .number n) ∨ ∃ m, v = .moment m ∧ isMoment cs := by
  unfold Value.ofWord? at h
  split at h
  · cases h
    exact .inl ⟨true, rfl⟩
  · split at h
    · cases h
      exact .inl ⟨false, rfl⟩
    · split at h
      · cases h
        exact .inr (.inl ⟨_, rfl⟩)
      · split at h
        · next hmoment =>
          cases h
          exact .inr (.inr ⟨_, rfl, hmoment⟩)
        · cases h

theorem isFrozen_ofWord? (h : Value.ofWord? cs = some v) : v.IsFrozen ∧ ¬ v.IsText := by
  rcases ofWord?_cases h with ⟨b, rfl⟩ | ⟨n, rfl⟩ | ⟨m, rfl, -⟩
  · exact ⟨trivial, id⟩
  · exact ⟨trivial, id⟩
  · exact ⟨trivial, id⟩

namespace Reader

variable {r r' q : Reader} {c : Construct} {place : Place} {use : KeyUse} {d : Document}

/-- What changes between two states of reading. -/
inductive Change : Reader → Reader → Prop where
  /-- Only the place. -/
  | move (r : Reader) (place : Place) (hline : place.OnLine → r.place.OnLine)
      (hword : r.place.InWord → place.InWord) : Change r { r with place }
  /-- A key at the beginning of a line gets its equals sign. -/
  | entry (r : Reader) (path : Path) (hword : ¬ r.place.InWord) (hstack : r.stack = []) :
      Change r { r with stack := [.entry path], place := .value }
  /-- A key in braces gets its equals sign. -/
  | pair (r : Reader) (t : Table Value) (path : Path) (stack : List Construct) (hword : ¬ r.place.InWord)
      (hstack : r.stack = .braces t :: stack) : Change r { r with stack := .pair t path :: stack, place := .value }
  /-- An array or a table in braces is opened. -/
  | push (r : Reader) (c : Construct) (place : Place) (hword : ¬ r.place.InWord) (hline : ¬ place.OnLine)
      (hc : ¬ c.IsEntry) : Change r { r with stack := c :: r.stack, place }
  /-- A text or a word is completed. -/
  | value (r r' : Reader) (v : Value) (hword : r.place.InWord → ¬ v.IsText) (hv : v.IsFrozen)
      (h : r.complete v = some r') : Change r r'
  /-- An array or a table in braces is closed. -/
  | close (r r' : Reader) (hword : ¬ r.place.InWord) (h : r.close = some r') : Change r r'
  /-- A header is read. -/
  | header (r : Reader) (path : Path) (d : Document) (hline : r.place.OnLine)
      (hd : r.document.openTable path = some d ∨ r.document.openElement path = some d) :
      Change r { r with document := d, place := .lineEnd }

/-- One change after another. -/
abbrev Leads : Reader → Reader → Prop := Relation.ReflTransGen Change

theorem Change.leads (h : Change r r') : r.Leads r' := .single h

/-- A place that is not on a line may always be moved to from one where no word has begun. -/
theorem leads_move (place : Place) (hword : ¬ r.place.InWord) (hline : place.OnLine → r.place.OnLine) :
    r.Leads { r with place } :=
  (Change.move r place hline fun h => absurd h hword).leads

theorem leads_push (hword : ¬ r.place.InWord) (hline : ¬ place.OnLine) (hc : ¬ c.IsEntry)
    (h : r.push c place = some r') : r.Leads r' := by
  unfold push at h
  split at h
  · cases h
    exact (Change.push r c place hword hline hc).leads
  · cases h

theorem leads_stepValue (hword : ¬ r.place.InWord) (h : r.stepValue token = some r') : r.Leads r' := by
  cases token with
  | word cs =>
    cases h
    exact leads_move _ hword False.elim
  | text cs multiline => exact (Change.value r r' (.text (.ofList cs)) (fun h => absurd h hword) trivial h).leads
  | openBracket => exact leads_push hword id id h
  | openBrace => exact leads_push hword id id h
  | _ => cases h

theorem leads_stepKey (hword : ¬ r.place.InWord) (hline : use ≠ .value → r.place.OnLine)
    (h : r.stepKey use path token = some r') : r.Leads r' := by
  unfold stepKey at h
  split at h
  · obtain ⟨k, -, rfl⟩ := Option.map_eq_some_iff.1 h
    exact leads_move _ hword hline
  · cases h

theorem leads_stepEquals (hword : ¬ r.place.InWord) (h : r.stepEquals path = some r') : r.Leads r' := by
  unfold stepEquals at h
  split at h
  · next hstack =>
    cases h
    exact (Change.entry r path hword hstack).leads
  · next t stack hstack =>
    cases h
    exact (Change.pair r t path stack hword hstack).leads
  · cases h

theorem leads_stepKeyEnd (hr : r.place = .keyEnd use path) (h : r.stepKeyEnd use path token = some r') :
    r.Leads r' := by
  have hword : ¬ r.place.InWord := by
    rw [hr]
    exact id
  have hline : use ≠ .value → r.place.OnLine := by
    rw [hr]
    exact id
  unfold stepKeyEnd at h
  split at h
  · cases h
    exact .refl
  · split at h
    · cases h
      exact leads_move _ hword False.elim
    · cases h
  · cases h
    exact leads_move _ hword hline
  · split at h
    · exact leads_stepEquals hword h
    · cases h
  · split at h
    · cases h
    · obtain ⟨d, hd, rfl⟩ := Option.map_eq_some_iff.1 h
      exact (Change.header r path d (hline (by decide)) (.inl hd)).leads
    · cases h
      exact leads_move _ hword fun _ => hline (by decide)
  · cases h

theorem leads_stepAfter (hword : ¬ r.place.InWord) (h : r.stepAfter token = some r') : r.Leads r' := by
  unfold stepAfter at h
  split at h
  · cases h
    exact .refl
  · next hplace =>
    cases h
    refine leads_move _ hword fun _ => ?_
    rw [hplace]
    trivial
  · cases h
    exact .refl
  · cases h
    exact .refl
  · split at h
    · cases h
      exact leads_move _ hword False.elim
    · cases h
      exact leads_move _ hword False.elim
    · cases h
  · split at h
    · exact (Change.close r r' hword h).leads
    · cases h
  · split at h
    · exact (Change.close r r' hword h).leads
    · cases h
  · cases h

theorem place_complete (h : r.complete v = some r') : r'.place = .lineEnd ∨ r'.place = .separator := by
  unfold complete at h
  split at h
  · obtain ⟨d, -, rfl⟩ := Option.map_eq_some_iff.1 h
    exact .inl rfl
  · cases h
    exact .inr rfl
  · obtain ⟨t, -, rfl⟩ := Option.map_eq_some_iff.1 h
    exact .inr rfl
  · cases h

theorem exists_of_close (h : r.close = some r') :
    ∃ c stack v, r.stack = c :: stack ∧ c.value? = some v ∧ complete { r with stack } v = some r' := by
  unfold close at h
  split at h
  · next items stack hstack => exact ⟨_, stack, _, hstack, rfl, h⟩
  · next t stack hstack => exact ⟨_, stack, _, hstack, rfl, h⟩
  · cases h

theorem leads_completeWord (h : r.completeWord read = some r') : r.Leads r' ∧ ¬ r'.place.InWord := by
  obtain ⟨v, hv, h⟩ := Option.bind_eq_some_iff.1 h
  obtain ⟨hfrozen, htext⟩ := isFrozen_ofWord? hv
  refine ⟨(Change.value r r' v (fun _ => htext) hfrozen h).leads, ?_⟩
  rcases place_complete h with hplace | hplace
  · rw [hplace]
    exact id
  · rw [hplace]
    exact id

theorem leads_step_word (hplace : r.place = .word read) (h : r.step token = some r') : r.Leads r' := by
  unfold step at h
  simp only [hplace] at h
  split at h
  · next cs =>
    cases h
    exact (Change.move r (.word (read ++ cs)) False.elim fun _ => trivial).leads
  · cases h
    exact (Change.move r (.word (read ++ ['.'])) False.elim fun _ => trivial).leads
  · obtain ⟨q, hq, h⟩ := Option.bind_eq_some_iff.1 h
    obtain ⟨hleads, hword⟩ := leads_completeWord hq
    exact hleads.trans (leads_stepAfter hword h)

theorem leads_step (h : r.step token = some r') : r.Leads r' := by
  by_cases hword : r.place.InWord
  · cases hplace : r.place with
    | word read => exact leads_step_word hplace h
    | _ =>
      rw [hplace] at hword
      cases hword
  · -- The cases are those of the place, and in it those of the token.
    unfold step at h
    cases hplace : r.place with
    | line =>
      simp only [hplace] at h
      split at h
      · cases h
        exact .refl
      · cases h
        exact .refl
      · cases h
        refine leads_move _ hword fun _ => ?_
        rw [hplace]
        trivial
      · exact leads_stepKey hword (fun hne => absurd rfl hne) h
    | header =>
      have hline : r.place.OnLine := by
        rw [hplace]
        trivial
      simp only [hplace] at h
      split at h
      · cases h
        exact leads_move _ hword fun _ => hline
      · cases h
        exact leads_move _ hword fun _ => hline
      · exact leads_stepKey hword (fun _ => hline) h
    | keyPart use path =>
      simp only [hplace] at h
      split at h
      · cases h
        exact .refl
      · refine leads_stepKey hword (fun hne => ?_) h
        rw [hplace]
        exact hne
    | keyEnd use path =>
      simp only [hplace] at h
      exact leads_stepKeyEnd hplace h
    | equals path =>
      simp only [hplace] at h
      split at h
      · cases h
        exact .refl
      · cases h
        exact .refl
      · exact leads_stepEquals hword h
      · cases h
    | headerEnd path =>
      simp only [hplace] at h
      split at h
      · obtain ⟨d, hd, rfl⟩ := Option.map_eq_some_iff.1 h
        refine (Change.header r path d ?_ (.inr hd)).leads
        rw [hplace]
        trivial
      · cases h
    | value =>
      simp only [hplace] at h
      split at h
      · cases h
        exact .refl
      · exact leads_stepValue hword h
    | item =>
      simp only [hplace] at h
      split at h
      · cases h
        exact .refl
      · cases h
        exact .refl
      · exact (Change.close r r' hword h).leads
      · exact leads_stepValue hword h
    | brace =>
      simp only [hplace] at h
      split at h
      · cases h
        exact .refl
      · cases h
        exact .refl
      · exact (Change.close r r' hword h).leads
      · exact leads_stepKey hword (fun hne => absurd rfl hne) h
    | word read =>
      rw [hplace] at hword
      exact absurd trivial hword
    | lineEnd =>
      simp only [hplace] at h
      exact leads_stepAfter hword h
    | separator =>
      simp only [hplace] at h
      exact leads_stepAfter hword h

theorem leads_steps (h : r.steps ts = some r') : r.Leads r' := by
  induction ts generalizing r with
  | nil =>
    cases h
    exact .refl
  | cons t ts ih =>
    obtain ⟨q, hq, h⟩ := exists_of_steps_cons h
    exact (leads_step hq).trans (ih h)

/-- Where a document may end it leads to the end of a line. -/
theorem leads_finish (h : r.finish = some d) : ∃ q, r.Leads q ∧ q.place.OnLine ∧ q.document = d := by
  unfold finish at h
  split at h
  · next hplace =>
    cases h
    exact ⟨r, .refl, by rw [hplace]; trivial, rfl⟩
  · next hplace =>
    cases h
    exact ⟨r, .refl, by rw [hplace]; trivial, rfl⟩
  · obtain ⟨q, hq, h⟩ := Option.bind_eq_some_iff.1 h
    split at h
    · next hplace =>
      cases h
      exact ⟨q, (leads_completeWord hq).1, by rw [hplace]; trivial, rfl⟩
    · cases h
  · cases h

/-! ## The order of constructs -/

/-- Below a key at the beginning of a line there is no construct. -/
def EntryLast : List Construct → Prop
  | [] => True
  | .entry _ :: stack => stack = []
  | .array _ :: stack => EntryLast stack
  | .braces _ :: stack => EntryLast stack
  | .pair _ _ :: stack => EntryLast stack

/-- No construct is open behind a line, nor below a key at the beginning of a line. -/
structure Ordered (r : Reader) : Prop where
  line : r.place.OnLine → r.stack = []
  entryLast : EntryLast r.stack

theorem ordered_start : start.Ordered := ⟨fun _ => rfl, trivial⟩

theorem EntryLast.push {stack : List Construct} (h : EntryLast stack) (hc : ¬ c.IsEntry) : EntryLast (c :: stack) := by
  cases c with
  | entry path => exact absurd trivial hc
  | _ => exact h

theorem EntryLast.tail {stack : List Construct} (h : EntryLast (c :: stack)) : EntryLast stack := by
  cases c with
  | entry path =>
    obtain rfl : stack = [] := h
    trivial
  | _ => exact h

theorem Ordered.complete {stack : List Construct} {place : Place} (hstack : EntryLast stack)
    (h : complete ⟨d, stack, place⟩ v = some r') : r'.Ordered := by
  unfold Reader.complete at h
  split at h
  · next path stack hs =>
    obtain rfl : _ = Construct.entry path :: stack := hs
    obtain ⟨d, -, rfl⟩ := Option.map_eq_some_iff.1 h
    obtain rfl : stack = [] := hstack
    exact ⟨fun _ => rfl, trivial⟩
  · next items stack hs =>
    obtain rfl : _ = Construct.array items :: stack := hs
    cases h
    exact ⟨False.elim, hstack⟩
  · next t path stack hs =>
    obtain rfl : _ = Construct.pair t path :: stack := hs
    obtain ⟨t, -, rfl⟩ := Option.map_eq_some_iff.1 h
    exact ⟨False.elim, hstack⟩
  · cases h

theorem Ordered.change (hr : r.Ordered) (h : Change r r') : r'.Ordered := by
  cases h with
  | move place hline hword => exact ⟨fun h => hr.line (hline h), hr.entryLast⟩
  | entry path hword hstack => exact ⟨False.elim, rfl⟩
  | pair t path stack hword hstack =>
    have hlast := hr.entryLast
    rw [hstack] at hlast
    exact ⟨False.elim, hlast⟩
  | push c place hword hline hc => exact ⟨fun h => absurd h hline, hr.entryLast.push hc⟩
  | value _ v hword hv h => exact .complete hr.entryLast h
  | close _ hword h =>
    obtain ⟨c, stack, v, hstack, -, h⟩ := exists_of_close h
    have hlast := hr.entryLast
    rw [hstack] at hlast
    exact .complete hlast.tail h
  | header path d hline hd => exact ⟨fun _ => hr.line hline, hr.entryLast⟩

theorem Ordered.leads (hr : r.Ordered) (h : r.Leads r') : r'.Ordered := by
  induction h with
  | refl => exact hr
  | tail _ h ih => exact ih.change h

/-! ## What was written stays -/

theorem keeps_complete (h : r.complete v = some r') : r.document.Keeps r'.document := by
  unfold complete at h
  split at h
  · obtain ⟨d, hd, rfl⟩ := Option.map_eq_some_iff.1 h
    exact Document.keeps_assign hd
  · cases h
    exact .refl _
  · obtain ⟨t, -, rfl⟩ := Option.map_eq_some_iff.1 h
    exact .refl _
  · cases h

theorem Change.keeps (h : Change r r') : r.document.Keeps r'.document := by
  cases h with
  | value _ v hword hv h => exact keeps_complete h
  | close _ hword h =>
    obtain ⟨c, stack, v, -, -, h⟩ := exists_of_close h
    exact (keeps_complete h :)
  | header path d hline hd =>
    rcases hd with hd | hd
    · exact Document.keeps_openTable hd
    · exact Document.keeps_openElement hd
  | _ => exact .refl _

theorem Leads.keeps (h : r.Leads r') : r.document.Keeps r'.document := by
  induction h with
  | refl => exact .refl _
  | tail _ h ih => exact ih.trans h.keeps

end Reader

end PointSum.Toml
