import PointSum.Proofs.Toml.Changes

/-!
# How a value begins decides what it is

The constructs below a value are not touched until the value is complete. What it is then is known from its first
token: a text is that text, a bracket begins an array and a brace a table, and a word is never a text.

* `Reader.Grows Q P` : whatever is read into a construct that is `Q`, it stays one, and closed it is a value that is
  `P`; `grows_nested`, `grows_array` : a construct that is new, and an array with a first item;
* `Reader.Over Q r r'` : what is read in `r'` stands over all that is open in `r`, in a construct that is `Q`;
  `Over.exists_complete` : it becomes a value that is `P`, and `r` goes on with it;
* `exists_complete_of_stepValue` : so does every token that begins a value.
-/

namespace PointSum.Toml

set_option autoImplicit false

variable {ts : List Token} {v : Value} {token : Token}

/-- What a value can be that begins with the token. -/
def Token.Begins : Token → Value → Prop
  | .text cs _, v => v = .text (.ofList cs)
  | _, v => v.IsFrozen ∧ ¬ v.IsText

/-- The token begins a value. -/
def Token.BeginsValue : Token → Prop
  | .word _ => True
  | .text _ _ => True
  | .openBracket => True
  | .openBrace => True
  | _ => False

theorem Token.Begins.isFrozen (h : token.Begins v) : v.IsFrozen := by
  cases token with
  | text cs multiline =>
    obtain rfl := h
    trivial
  | _ => exact h.1

/-- An array, or a table in braces to which nothing will be added but what is in the braces. -/
def Construct.IsNested : Construct → Prop
  | .entry _ => False
  | .array _ => True
  | .braces t => t.origin = .inline
  | .pair t _ => t.origin = .inline

namespace Reader

variable {r r' q : Reader} {c : Construct} {Q : Construct → Prop} {P : Value → Prop}

/-- Completing a value does not depend on the place. -/
theorem complete_congr (hdocument : r.document = q.document) (hstack : r.stack = q.stack) :
    r.complete v = q.complete v := by
  unfold complete
  rw [hdocument, hstack]

/-! ## Constructs while they are read -/

/-- Whatever is read into a construct that is `Q`, it stays one, and closed it is a value that is `P`. -/
structure Grows (Q : Construct → Prop) (P : Value → Prop) : Prop where
  not_entry : ∀ path, ¬ Q (.entry path)
  item : ∀ items v, Q (.array items) → Q (.array (v :: items))
  key : ∀ t path, Q (.braces t) → Q (.pair t path)
  pair : ∀ t t' path v, Q (.pair t path) → t.assign path v = some t' → Q (.braces t')
  value : ∀ c v, Q c → c.value? = some v → P v

/-- An array or a table in braces becomes a value that nothing can be added to, and not a text. -/
theorem grows_nested : Grows Construct.IsNested fun v => v.IsFrozen ∧ ¬ v.IsText := by
  constructor
  · exact fun path => id
  · exact fun items v _ => trivial
  · exact fun t path h => h
  · exact fun t t' path v h ht' => (Table.origin_assign ht').trans h
  · intro c v hc hv
    cases c with
    | array items =>
      cases hv
      exact ⟨trivial, id⟩
    | braces t =>
      cases hv
      exact ⟨hc, id⟩
    | _ => cases hv

/-- An array keeps its first item. -/
theorem grows_array (v : Value) :
    Grows (fun c => ∃ items, c = .array items ∧ items.getLast? = some v) fun w => ∃ items, w = .array (v :: items) := by
  constructor
  · rintro path ⟨items, ⟨⟩, -⟩
  · rintro items w ⟨_, ⟨⟩, hlast⟩
    exact ⟨w :: items, rfl, by rw [List.getLast?_cons, hlast]; rfl⟩
  · rintro t path ⟨items, ⟨⟩, -⟩
  · rintro t t' path w ⟨items, ⟨⟩, -⟩
  · rintro c w ⟨items, rfl, hlast⟩ hw
    cases hw
    obtain ⟨front, rfl⟩ := List.getLast?_eq_some_iff.1 hlast
    exact ⟨front.reverse, by simp⟩

/-- The document is that of `r`, and over all that is open in `r` stands a construct that is `Q`. -/
def Over (Q : Construct → Prop) (r r' : Reader) : Prop :=
  r'.document = r.document ∧ ∃ front c, r'.stack = front ++ c :: r.stack ∧ Q c

/-- Where only the innermost construct changes, the one over `r` is either that one or farther down. -/
theorem Over.cases_head {stack : List Construct} (h : r.Over Q q) (hstack : q.stack = c :: stack) :
    Q c ∧ stack = r.stack ∨ ∃ front d, stack = front ++ d :: r.stack ∧ Q d := by
  obtain ⟨-, front, d, heq, hd⟩ := h
  rw [hstack] at heq
  cases front with
  | nil =>
    cases heq
    exact .inl ⟨hd, rfl⟩
  | cons e front =>
    cases heq
    exact .inr ⟨front, d, rfl, hd⟩

/-- A construct that takes the place of the innermost one stands there as that one did. -/
theorem Over.replace {stack : List Construct} {d : Construct} {place : Place} (h : r.Over Q q)
    (hstack : q.stack = c :: stack) (hd : Q c → Q d) : r.Over Q { q with stack := d :: stack, place } := by
  refine ⟨h.1, ?_⟩
  rcases h.cases_head hstack with ⟨hc, rfl⟩ | ⟨front, e, rfl, he⟩
  · exact ⟨[], d, rfl, hd hc⟩
  · exact ⟨d :: front, e, rfl, he⟩

theorem Over.complete (hQ : Grows Q P) (h : r.Over Q q) (hlast : EntryLast q.stack) (hq : q.complete v = some r') :
    r.Over Q r' := by
  unfold Reader.complete at hq
  split at hq
  · next path stack hstack =>
    -- Nothing stands below a key at the beginning of a line.
    rw [hstack] at hlast
    obtain rfl : stack = [] := hlast
    rcases h.cases_head hstack with ⟨hentry, -⟩ | ⟨front, e, heq, -⟩
    · exact absurd hentry (hQ.not_entry path)
    · exact absurd heq.symm (by simp)
  · next items stack hstack =>
    cases hq
    exact h.replace hstack (hQ.item items v)
  · next t path stack hstack =>
    obtain ⟨t', ht', rfl⟩ := Option.map_eq_some_iff.1 hq
    exact h.replace hstack fun ht => hQ.pair t t' path v ht ht'
  · cases hq

/-- A change either leaves a construct over `r`, or closes it, and then `r` goes on with the value. -/
theorem Over.change (hQ : Grows Q P) (h : r.Over Q q) (hq : q.Ordered) (hchange : Change q r') :
    r.Over Q r' ∨ ∃ v, P v ∧ r.complete v = some r' := by
  have hne : q.stack ≠ [] := by
    obtain ⟨-, front, c, hstack, -⟩ := h
    simp [hstack]
  cases hchange with
  | move place hline hword => exact .inl h
  | entry path hword hstack => exact absurd hstack hne
  | pair t path stack hword hstack => exact .inl (h.replace hstack (hQ.key t path))
  | push c place hword hline hc =>
    obtain ⟨hdocument, front, d, hstack, hd⟩ := h
    exact .inl ⟨hdocument, c :: front, d, congrArg (c :: ·) hstack, hd⟩
  | value _ v hword hv hcomplete => exact .inl (h.complete hQ hq.entryLast hcomplete)
  | close _ hword hclose =>
    obtain ⟨c, stack, v, hstack, hv, hcomplete⟩ := exists_of_close hclose
    rcases h.cases_head hstack with ⟨hc, rfl⟩ | ⟨front, d, rfl, hd⟩
    · have hcongr : Reader.complete { q with stack := r.stack } v = r.complete v := complete_congr h.1 rfl
      exact .inr ⟨v, hQ.value c v hc hv, hcongr.symm.trans hcomplete⟩
    · have hlast := hq.entryLast
      rw [hstack] at hlast
      have hover : r.Over Q { q with stack := front ++ d :: r.stack } := ⟨h.1, front, d, rfl, hd⟩
      exact .inl (hover.complete hQ hlast.tail hcomplete)
  | header path d hline hd => exact absurd (hq.line hline) hne

/-- Before another line begins, the construct over `r` is closed, and `r` goes on with a value that is `P`. -/
theorem Over.exists_complete (hQ : Grows Q P) (h : r.Over Q q) (hq : q.Ordered) (hleads : q.Leads r')
    (hend : r'.place.OnLine) : ∃ v q', P v ∧ r.complete v = some q' ∧ q'.Leads r' := by
  induction hleads using Relation.ReflTransGen.head_induction_on with
  | refl =>
    obtain ⟨-, front, c, hstack, -⟩ := h
    rw [hq.line hend] at hstack
    exact absurd hstack.symm (by simp)
  | head hchange hrest ih =>
    rcases h.change hQ hq hchange with h | ⟨v, hv, hcomplete⟩
    · exact ih h (hq.change hchange)
    · exact ⟨v, _, hv, hcomplete, hrest⟩

/-! ## Words -/

theorem not_inWord_of_onLine {place : Place} (h : place.OnLine) : ¬ place.InWord := by
  cases place with
  | word read => cases h
  | _ => exact id

/-- A word is completed to a value that is not a text before anything else happens. -/
theorem exists_complete_of_inWord (hword : q.place.InWord) (hdocument : q.document = r.document)
    (hstack : q.stack = r.stack) (hleads : q.Leads r') (hend : r'.place.OnLine) :
    ∃ v q', (v.IsFrozen ∧ ¬ v.IsText) ∧ r.complete v = some q' ∧ q'.Leads r' := by
  induction hleads using Relation.ReflTransGen.head_induction_on with
  | refl => exact absurd hword (not_inWord_of_onLine hend)
  | head hchange hrest ih =>
    cases hchange with
    | move place hline hmove => exact ih (hmove hword) hdocument hstack
    | value _ v htext hv hcomplete =>
      exact ⟨v, _, ⟨hv, htext hword⟩, (complete_congr hdocument hstack).symm.trans hcomplete, hrest⟩
    | header path d hline hd => exact absurd hword (not_inWord_of_onLine hline)
    | entry path hne hstack => exact absurd hword hne
    | pair t path stack hne hstack => exact absurd hword hne
    | push c place hne hline hc => exact absurd hword hne
    | close _ hne hclose => exact absurd hword hne

/-! ## Values -/

theorem over_of_push {place : Place} (hc : Q c) (h : r.push c place = some q) : r.Over Q q := by
  unfold push at h
  split at h
  · cases h
    exact ⟨rfl, [], c, rfl, hc⟩
  · cases h

/-- A token that begins a value decides what it can be. The constructs that were open before go on with it. -/
theorem exists_complete_of_stepValue (hr : r.Ordered) (hword : ¬ r.place.InWord) (h : r.stepValue token = some q)
    (hleads : q.Leads r') (hend : r'.place.OnLine) :
    ∃ v q', token.Begins v ∧ r.complete v = some q' ∧ q'.Leads r' := by
  have hq : q.Ordered := hr.leads (leads_stepValue hword h)
  cases token with
  | word cs =>
    cases h
    have hplace : Place.InWord (.word cs) := trivial
    exact exists_complete_of_inWord (q := { r with place := .word cs }) hplace rfl rfl hleads hend
  | text cs multiline => exact ⟨_, q, rfl, h, hleads⟩
  | openBracket =>
    have hnew : (Construct.array []).IsNested := trivial
    exact (over_of_push hnew h).exists_complete grows_nested hq hleads hend
  | openBrace =>
    have hnew : (Construct.braces (.empty .inline)).IsNested := rfl
    exact (over_of_push hnew h).exists_complete grows_nested hq hleads hend
  | _ => cases h

theorem step_eq_stepValue (hr : r.place = .value ∨ r.place = .item) (h : token.BeginsValue) :
    r.step token = r.stepValue token := by
  unfold step
  cases token with
  | word cs => rcases hr with hr | hr <;> simp [hr]
  | text cs multiline => rcases hr with hr | hr <;> simp [hr]
  | openBracket => rcases hr with hr | hr <;> simp [hr]
  | openBrace => rcases hr with hr | hr <;> simp [hr]
  | _ => cases h

/-- Where a value may begin, the first of the tokens up to the end of a document decides what it is. -/
theorem exists_complete_of_steps {d : Document} (hr : r.Ordered) (hplace : r.place = .value ∨ r.place = .item)
    (htoken : token.BeginsValue) (h : r.steps (token :: ts) = some r') (hd : r'.finish = some d) :
    ∃ v q f, token.Begins v ∧ r.complete v = some q ∧ q.Leads f ∧ f.place.OnLine ∧ f.document = d := by
  obtain ⟨q, hq, hrest⟩ := exists_of_steps_cons h
  rw [step_eq_stepValue hplace htoken] at hq
  obtain ⟨f, hleads, hend, rfl⟩ := leads_finish hd
  have hword : ¬ r.place.InWord := by
    rcases hplace with hplace | hplace
    · rw [hplace]
      exact id
    · rw [hplace]
      exact id
  obtain ⟨v, q', hv, hcomplete, hq'⟩ := exists_complete_of_stepValue hr hword hq ((leads_steps hrest).trans hleads) hend
  exact ⟨v, q', f, hv, hcomplete, hq', hend, rfl⟩

end Reader

end PointSum.Toml
