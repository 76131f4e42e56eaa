import Mathlib.Data.List.Infix
import PointSum.Log.Filter
import PointSum.Proofs.Text.Slice
import PointSum.Proofs.Text.Trim

/-!
# Filters that trap

* `placed_append`, `placedRest_append` : a part of a directive is found if nothing was trimmed off the front;
* `exists_cuts_of_trap` : a directive traps at the length of a front of the trimmed text, where a character of the
  directive is cut;
* `blank_of_trap` : so a directive that traps begins with a blank character, and has a character of several bytes;
* `read_eq_error_iff` : a filter traps at a directive if those before it are read;
* `ofSetting_eq_error_iff`, `blank_of_ofSetting` : the settings that trap.
-/

namespace PointSum.Log

set_option autoImplicit false

open Text (encode Cuts)

variable {directive before part cs : List Char} {sign : Char} {target : Option (List Char)} {inSpan : Bool}
  {e : DirectiveFault} {t : FilterTrap}

/-! ## Parts of a directive -/

theorem placed_append (before part rest : List Char) (sign : Char) :
    placed (before ++ part ++ rest) before part sign = .ok part := by
  rw [placed, Text.slice_append]
  rfl

theorem placedRest_append (before rest : List Char) : placedRest (before ++ rest) before = .ok rest := by
  rw [placedRest, Text.sliceFrom_append]
  rfl

/-- The directive cuts a character at the length of a front of the text. -/
def CutsFront (directive cs : List Char) : Prop :=
  ∃ front, front <+: cs ∧ Cuts directive (encode front).length

theorem CutsFront.mono {ds : List Char} (h : CutsFront directive cs) (hle : cs <+: ds) : CutsFront directive ds := by
  obtain ⟨front, hfront, hcuts⟩ := h
  exact ⟨front, hfront.trans hle, hcuts⟩

theorem cutsFront_of_placed (h : placed directive before part sign = .error e) :
    CutsFront directive (before ++ part) := by
  unfold placed at h
  cases hslice : Text.slice directive (encode before).length (encode (before ++ part)).length with
  | ok cs =>
    rw [hslice] at h
    cases h
  | error f =>
    rcases Text.cuts_of_slice hslice (by rw [Text.length_encode_append]; omega) with hcuts | hcuts
    · exact ⟨before, List.prefix_append _ _, hcuts⟩
    · exact ⟨before ++ part, List.prefix_rfl, hcuts⟩

theorem cutsFront_of_placedRest (h : placedRest directive before = .error e) : CutsFront directive before := by
  unfold placedRest at h
  cases hslice : Text.sliceFrom directive (encode before).length with
  | ok cs =>
    rw [hslice] at h
    cases h
  | error f => exact ⟨before, List.prefix_rfl, Text.cuts_of_sliceFrom hslice⟩

/-! ## Directives -/

/-- What a step of reading is, followed by the rest: a fault of either. -/
theorem bind_eq_error_iff {α β ε : Type} {x : Except ε α} {f : α → Except ε β} {e : ε} :
    x >>= f = .error e ↔ x = .error e ∨ ∃ a, x = .ok a ∧ f a = .error e := by
  cases x with
  | error e' => simp [bind, Except.bind]
  | ok a => simp [bind, Except.bind]

theorem cutsFront_of_readLevel (h : readLevel directive before = .error (.trap t)) : CutsFront directive before := by
  rcases bind_eq_error_iff.1 h with h | ⟨cs, -, h⟩
  · exact cutsFront_of_placedRest h
  · split at h
    · cases h
    · split at h <;> cases h

theorem cutsFront_of_readAfterScope (h : readAfterScope directive before cs = .error (.trap t)) :
    CutsFront directive (before ++ cs) := by
  unfold readAfterScope at h
  split at h
  · cases h
  · next cs => exact (cutsFront_of_readLevel h).mono ⟨cs, by simp⟩
  · cases h

theorem cutsFront_of_readFieldScope
    (h : readFieldScope directive before target inSpan cs = .error (.trap t)) :
    CutsFront directive (before ++ cs) := by
  have hcs := List.takeWhile_append_dropWhile (p := (· ≠ '\x7d')) (l := cs)
  unfold readFieldScope at h
  simp only at h
  generalize cs.takeWhile (· ≠ '\x7d') = written at h hcs
  split at h
  · cases h
  · next brace rest hrest =>
    rw [hrest] at hcs
    rw [← hcs, ← List.append_assoc]
    rcases bind_eq_error_iff.1 h with h | ⟨field, -, h⟩
    · exact (cutsFront_of_placed h).mono (List.prefix_append _ _)
    · split at h
      · cases h
      · split at h
        · next rest =>
          rcases bind_eq_error_iff.1 h with h | ⟨n, -, h⟩
          · have hcuts := cutsFront_of_readAfterScope h
            rwa [List.append_assoc _ [brace, ']']] at hcuts
          · cases h
        · cases h

theorem cutsFront_of_readScope (h : readScope directive before target cs = .error (.trap t)) :
    CutsFront directive (before ++ cs) := by
  have hcs := List.takeWhile_append_dropWhile (p := fun c => c ≠ ']' ∧ c ≠ '\x7b') (l := cs)
  unfold readScope at h
  simp only at h
  generalize cs.takeWhile (fun c => c ≠ ']' ∧ c ≠ '\x7b') = span at h hcs
  split at h
  · cases h
  · next c rest hrest =>
    rw [hrest] at hcs
    rw [← hcs, ← List.append_assoc]
    rcases bind_eq_error_iff.1 h with h | ⟨-, -, h⟩
    · exact (cutsFront_of_placed h).mono (List.prefix_append _ _)
    · rw [List.append_cons]
      split at h
      · rcases bind_eq_error_iff.1 h with h | ⟨n, -, h⟩
        · exact cutsFront_of_readAfterScope h
        · cases h
      · exact cutsFront_of_readFieldScope h

/-- A directive traps where a front of its trimmed text is as long as no front of the directive itself. -/
theorem cutsFront_of_readDirective (h : readDirective directive = .error (.trap t)) :
    CutsFront directive (Text.trim directive) := by
  have hcs := List.takeWhile_append_dropWhile (p := fun c => c ≠ '=' ∧ c ≠ '[') (l := Text.trim directive)
  unfold readDirective at h
  simp only at h
  generalize (Text.trim directive).takeWhile (fun c => c ≠ '=' ∧ c ≠ '[') = word at h hcs
  split at h
  · cases h
  · split at h
    · cases h
    · next c rest hrest =>
      rw [hrest] at hcs
      rw [← hcs]
      rcases bind_eq_error_iff.1 h with h | ⟨part, -, h⟩
      · exact (cutsFront_of_placed h).mono (List.prefix_append _ _)
      · rw [List.append_cons]
        split at h
        · rcases bind_eq_error_iff.1 h with h | ⟨n, -, h⟩
          · exact (cutsFront_of_readLevel h).mono (List.prefix_append _ _)
          · cases h
        · exact cutsFront_of_readScope h

/-- A directive that traps begins with a blank character, and has a character of several bytes. -/
theorem blank_of_trap (h : readDirective directive = .error (.trap t)) :
    (∃ c ∈ directive.head?, Text.isBlank c) ∧ ∃ c ∈ directive, 1 < c.utf8Size := by
  obtain ⟨front, hfront, hcuts⟩ := cutsFront_of_readDirective h
  refine ⟨?_, hcuts.exists_long⟩
  by_contra hhead
  have htrim : Text.trim directive <+: directive := by
    apply Text.trim_isPrefix
    intro c hc
    exact Bool.eq_false_iff.2 fun hblank => hhead ⟨c, hc, hblank⟩
  obtain ⟨rest, rfl⟩ := hfront.trans htrim
  exact Text.not_cuts_append front rest hcuts

/-! ## Filters -/

theorem mapM_eq_error_iff {α β ε : Type} {f : α → Except ε β} {xs : List α} {e : ε} :
    xs.mapM f = .error e ↔
      ∃ before x after, xs = before ++ x :: after ∧ (∀ y ∈ before, ∃ b, f y = .ok b) ∧ f x = .error e := by
  induction xs with
  | nil => simp [pure, Except.pure]
  | cons x xs ih =>
    rw [List.mapM_cons, bind_eq_error_iff]
    constructor
    · rintro (h | ⟨b, hb, h⟩)
      · exact ⟨[], x, xs, rfl, by simp, h⟩
      · rcases bind_eq_error_iff.1 h with h | ⟨bs, -, h⟩
        · obtain ⟨before, y, after, rfl, hbefore, hy⟩ := ih.1 h
          exact ⟨x :: before, y, after, rfl, List.forall_mem_cons.2 ⟨⟨b, hb⟩, hbefore⟩, hy⟩
        · cases h
    · rintro ⟨before, y, after, happ, hbefore, hy⟩
      cases before with
      | nil =>
        obtain ⟨rfl, -⟩ := List.cons.inj happ
        exact .inl hy
      | cons z before =>
        obtain ⟨rfl, rfl⟩ := List.cons.inj happ
        obtain ⟨⟨b, hb⟩, hbefore⟩ := List.forall_mem_cons.1 hbefore
        exact .inr ⟨b, hb, bind_eq_error_iff.2 (.inl (ih.2 ⟨before, y, after, rfl, hbefore, hy⟩))⟩

/-- A filter is not read for the first of its directives that is not read. -/
theorem read_eq_error_iff : Filter.read cs = .error e ↔
    ∃ before directive after, directiveTexts cs = before ++ directive :: after ∧
      (∀ d ∈ before, ∃ o, readDirective d = .ok o) ∧ readDirective directive = .error e := by
  unfold Filter.read
  split
  · next hnil => simp [hnil]
  · rw [Text.map_eq_error_iff, mapM_eq_error_iff]

theorem ofSetting_encode (cs : List Char) : Filter.ofSetting (some (encode cs)) =
    match Filter.read cs with
    | .ok fs => .ok fs
    | .error .unreadable => .ok Filter.warnings
    | .error (.trap t) => .error t := by
  cases hread : Filter.read cs with
  | ok fs => simp [Filter.ofSetting, Text.decode?_encode, hread]
  | error e => cases e <;> simp [Filter.ofSetting, Text.decode?_encode, hread]

theorem ofSetting_eq_error_iff {setting : Option Text.Bytes} : Filter.ofSetting setting = .error t ↔
    ∃ cs, setting = some (encode cs) ∧ Filter.read cs = .error (.trap t) := by
  constructor
  · intro h
    cases hcs : setting.bind Text.decode? with
    | none =>
      simp only [Filter.ofSetting, hcs] at h
      cases h
    | some cs =>
      obtain ⟨bs, rfl, hbs⟩ := Option.bind_eq_some_iff.1 hcs
      obtain rfl := Text.decode?_eq_some_iff.1 hbs
      refine ⟨cs, rfl, ?_⟩
      rw [ofSetting_encode] at h
      split at h
      · cases h
      · cases h
      · next t' ht =>
        obtain rfl := Except.error.inj h
        exact ht
  · rintro ⟨cs, rfl, hcs⟩
    rw [ofSetting_encode, hcs]

/-- A setting that traps has a directive that begins with a blank character and has a character of several bytes. -/
theorem blank_of_ofSetting {setting : Option Text.Bytes} (h : Filter.ofSetting setting = .error t) :
    ∃ cs, setting = some (encode cs) ∧ ∃ directive ∈ directiveTexts cs,
      (∃ c ∈ directive.head?, Text.isBlank c) ∧ ∃ c ∈ directive, 1 < c.utf8Size := by
  obtain ⟨cs, hcs, hread⟩ := ofSetting_eq_error_iff.1 h
  obtain ⟨before, directive, after, happ, -, htrap⟩ := read_eq_error_iff.1 hread
  exact ⟨cs, hcs, directive, by rw [happ]; simp, blank_of_trap htrap⟩

end PointSum.Log
