import PointSum.Proofs.Toml.Changes
import PointSum.Proofs.Toml.NumberLiteral

/-!
# Values without quotes

A number with a point in it is scanned as words with points between them, and the reader joins them again.

* `Spells ts cs` : the tokens are words and points, and together they are the text;
* `Scanner.exists_steps_plain` : a plain text is scanned as such tokens, of which the last one is completed by what
  follows;
* `Reader.steps_plain` : where a value begins, such tokens are read as the text;
  `Reader.exists_complete_of_plain` : on a line of its own it is completed to the value that the text is.
-/

namespace PointSum.Toml

set_option autoImplicit false

variable {c : Char} {cs ds read : List Char} {ts us : List Token}

/-- The tokens are words and points, and together they are the text. -/
inductive Spells : List Token → List Char → Prop where
  | nil : Spells [] []
  | word (w : List Char) {ts : List Token} {cs : List Char} (h : Spells ts cs) : Spells (.word w :: ts) (w ++ cs)
  | dot {ts : List Token} {cs : List Char} (h : Spells ts cs) : Spells (.dot :: ts) ('.' :: cs)

namespace Scanner

theorem step_word_dot (read : List Char) :
    (word read []).step '.' = some ([.word read.reverse, .dot], outside) := by
  have hspacing : isSpacing '.' = false := rfl
  have hstart : isWordStart '.' = false := rfl
  have hword : isWordChar '.' = false := rfl
  have hstep : stepOutside '.' = some ([.dot], outside) := rfl
  simp [step, stepWord, hspacing, hstart, hword, hstep, Outcome.after]

/-- A plain text where nothing is open, and behind a word that it goes on with. -/
theorem exists_steps_plainChars (h : ∀ c ∈ cs, IsPlainChar c) :
    (∃ ts s us, outside.steps cs = some (ts, s) ∧ s.finish = some us ∧ Spells (ts ++ us) cs) ∧
    ∀ read, ∃ ts s us, (word read []).steps cs = some (ts, s) ∧ s.finish = some us ∧
      Spells (ts ++ us) (read.reverse ++ cs) := by
  induction cs with
  | nil => exact ⟨⟨[], outside, [], rfl, rfl, .nil⟩, fun read => ⟨[], word read [], _, rfl, rfl, .word _ .nil⟩⟩
  | cons c cs ih =>
    obtain ⟨hc, hcs⟩ := List.forall_mem_cons.1 h
    obtain ⟨houtside, hword⟩ := ih hcs
    rcases hc with hstart | rfl
    · constructor
      · obtain ⟨ts, s, us, hsteps, hfinish, hspells⟩ := hword [c]
        refine ⟨ts, s, us, ?_, hfinish, hspells⟩
        rw [steps_cons (step_outside_of_wordStart hstart), hsteps]
        rfl
      · intro read
        obtain ⟨ts, s, us, hsteps, hfinish, hspells⟩ := hword (c :: read)
        refine ⟨ts, s, us, ?_, hfinish, ?_⟩
        · rw [steps_cons (step_word_of_wordStart hstart read), hsteps]
          rfl
        · rwa [List.reverse_cons, List.append_assoc] at hspells
    · obtain ⟨ts, s, us, hsteps, hfinish, hspells⟩ := houtside
      constructor
      · have hdot : outside.step '.' = some ([.dot], outside) := rfl
        refine ⟨.dot :: ts, s, us, ?_, hfinish, .dot hspells⟩
        rw [steps_cons hdot, hsteps]
        rfl
      · intro read
        refine ⟨.word read.reverse :: .dot :: ts, s, us, ?_, hfinish, .word _ (.dot hspells)⟩
        rw [steps_cons (step_word_dot read), hsteps]
        rfl

theorem exists_steps_plain (h : IsPlain cs) :
    ∃ ts s us, outside.steps cs = some (ts, s) ∧ s.finish = some us ∧ Spells (ts ++ us) cs :=
  (exists_steps_plainChars h.chars).1

/-- The first token behind the beginning of a word is the whole word. -/
theorem exists_word_of_scan {read blanks : List Char} (h : (word read blanks).scan cs = some ts) :
    ∃ w us, ts = .word w :: us := by
  induction cs generalizing read blanks with
  | nil =>
    cases h
    exact ⟨_, _, rfl⟩
  | cons c cs ih =>
    rw [scan, step, stepWord] at h
    by_cases hspacing : isSpacing c
    · rw [if_pos hspacing] at h
      obtain ⟨us, hus, rfl⟩ := Option.map_eq_some_iff.1 h
      exact ih hus
    · rw [if_neg hspacing] at h
      by_cases hchar : isWordStart c ∨ (blanks = [] ∧ isWordChar c)
      · rw [if_pos hchar] at h
        obtain ⟨us, hus, rfl⟩ := Option.map_eq_some_iff.1 h
        exact ih hus
      · rw [if_neg hchar] at h
        cases hstep : stepOutside c with
        | none =>
          rw [hstep] at h
          cases h
        | some o =>
          rw [hstep] at h
          obtain ⟨us, -, rfl⟩ := Option.map_eq_some_iff.1 h
          exact ⟨_, _, rfl⟩

end Scanner

namespace Reader

variable {r r' : Reader}

theorem steps_spells (h : Spells ts cs) (read : List Char) :
    steps { r with place := .word read } ts = some { r with place := .word (read ++ cs) } := by
  induction h generalizing read with
  | nil =>
    rw [List.append_nil]
    rfl
  | word w h ih =>
    have hstep : step { r with place := .word read } (.word w) = some { r with place := .word (read ++ w) } := rfl
    rw [steps_cons, hstep, Option.bind_some, ih, List.append_assoc]
  | @dot ts cs h ih =>
    have hstep : step { r with place := .word read } .dot = some { r with place := .word (read ++ ['.']) } := rfl
    rw [steps_cons, hstep, Option.bind_some, ih, List.append_assoc]
    rfl

theorem steps_plain (hr : r.place = .value) (hcs : IsPlain cs) (h : Spells ts cs) :
    r.steps ts = some { r with place := .word cs } := by
  obtain ⟨c, ds, hhead, hc⟩ := hcs.head
  cases h with
  | nil => cases hhead
  | word w h =>
    have hstep : r.step (.word w) = some { r with place := .word w } := by
      unfold step
      simp only [hr]
      rfl
    rw [steps_cons, hstep, Option.bind_some, steps_spells h]
  | dot h =>
    cases hhead
    exact absurd hc (by decide)

/-- On a line of its own a plain text is completed to the value that it is. -/
theorem exists_complete_of_plain {rest : List Char} (hr : r.place = .value) (hcs : IsPlain cs)
    (hscan : Scanner.outside.scan (cs ++ '\n' :: rest) = some ts) (h : r.steps ts = some r') :
    ∃ v q, Value.ofWord? cs = some v ∧ r.complete v = some q ∧ q.Leads r' := by
  obtain ⟨us, s, vs, hsteps, hfinish, hspells⟩ := Scanner.exists_steps_plain hcs
  rw [Scanner.scan_append hsteps, Scanner.scan_cons (Scanner.step_newline_of_finish hfinish), Option.map_map] at hscan
  obtain ⟨ws, -, rfl⟩ := Option.map_eq_some_iff.1 hscan
  have hts : us ++ (vs ++ [.newline] ++ ws) = (us ++ vs) ++ .newline :: ws := by simp
  rw [Function.comp_apply, hts, steps_append, steps_plain hr hcs hspells, Option.bind_some] at h
  obtain ⟨q, hq, hrest⟩ := exists_of_steps_cons h
  obtain ⟨p, hp, hafter⟩ := Option.bind_eq_some_iff.1 hq
  obtain ⟨v, hv, hcomplete⟩ := Option.bind_eq_some_iff.1 hp
  have hword : ¬ p.place.InWord := (leads_completeWord hp).2
  exact ⟨v, p, hv, hcomplete, (leads_stepAfter hword hafter).trans (leads_steps hrest)⟩

end Reader

end PointSum.Toml
