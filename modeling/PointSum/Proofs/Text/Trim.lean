import Mathlib.Data.List.DropRight
import PointSum.Text.Characters

/-!
# Blank ends

* `Blanks cs` : every character of `cs` is blank; `Tight cs` : none stands at either end of `cs`;
* `trim_tight`, `exists_trim` : `trim` leaves a tight text and takes only blank characters off;
* `trim_of_tight`, `trim_of_blanks` : it leaves a tight text as it is, and nothing of a blank one; `trim_isPrefix` :
  and a front of one that begins with no blank character;
* `trim_append` : blank characters added at the ends do not matter.
-/

namespace PointSum.Text

set_option autoImplicit false

/-- Every character is blank. -/
def Blanks (cs : List Char) : Prop := ∀ c ∈ cs, isBlank c

/-- No blank character stands at either end. -/
def Tight (cs : List Char) : Prop :=
  (∀ c ∈ cs.head?, isBlank c = false) ∧ ∀ c ∈ cs.getLast?, isBlank c = false

variable {u v cs : List Char}

@[simp] theorem Blanks.nil : Blanks [] := fun _ h => by simp at h

theorem Blanks.append (hu : Blanks u) (hv : Blanks v) : Blanks (u ++ v) := by
  intro c hc
  rcases List.mem_append.1 hc with h | h
  · exact hu c h
  · exact hv c h

theorem Blanks.not_mem (hu : Blanks u) {c : Char} (hc : isBlank c = false) : c ∉ u := by
  intro h
  have := hu c h
  rw [hc] at this
  cases this

theorem tight_of_forall (h : ∀ c ∈ cs, isBlank c = false) : Tight cs :=
  ⟨fun c hc => h c (List.mem_of_mem_head? hc), fun c hc => h c (List.mem_of_mem_getLast? hc)⟩

/-! ## The ends of a trimmed text -/

theorem trimStart_append (hu : Blanks u) : trimStart (u ++ cs) = trimStart cs :=
  List.dropWhile_append_of_pos hu

theorem trimEnd_append (hv : Blanks v) : trimEnd (cs ++ v) = trimEnd cs := by
  unfold trimEnd
  rw [List.reverse_append, List.dropWhile_append_of_pos]
  intro c hc
  exact hv c (List.mem_reverse.1 hc)

theorem exists_trimStart (cs : List Char) : ∃ u, Blanks u ∧ cs = u ++ trimStart cs :=
  ⟨cs.takeWhile isBlank, fun _ hc => List.mem_takeWhile_imp hc, List.takeWhile_append_dropWhile.symm⟩

theorem exists_trimEnd (cs : List Char) : ∃ v, Blanks v ∧ cs = trimEnd cs ++ v :=
  ⟨cs.rtakeWhile isBlank, fun _ hc => List.mem_rtakeWhile_imp hc,
    (List.rdropWhile_append_rtakeWhile).symm⟩

theorem head?_trimStart {c : Char} (h : c ∈ (trimStart cs).head?) : isBlank c = false := by
  have hn := List.head?_dropWhile_not isBlank cs
  rw [show (List.dropWhile isBlank cs).head? = some c from h] at hn
  simpa using hn

theorem getLast?_trimEnd {c : Char} (h : c ∈ (trimEnd cs).getLast?) : isBlank c = false := by
  unfold trimEnd at h
  rw [List.getLast?_reverse] at h
  exact head?_trimStart h

/-- Characters taken off the back leave the first one in place. -/
theorem head?_trimEnd {c : Char} (h : c ∈ (trimEnd cs).head?) : c ∈ cs.head? := by
  obtain ⟨v, -, hcs⟩ := exists_trimEnd cs
  cases ht : trimEnd cs with
  | nil => simp [ht] at h
  | cons d ds =>
    rw [ht] at h hcs
    rw [hcs]
    exact h

@[simp] theorem trim_tight (cs : List Char) : Tight (trim cs) :=
  ⟨fun _ hc => head?_trimStart (head?_trimEnd hc), fun _ hc => getLast?_trimEnd hc⟩

theorem exists_trim (cs : List Char) : ∃ u v, Blanks u ∧ Blanks v ∧ cs = u ++ trim cs ++ v := by
  obtain ⟨u, hu, hcs⟩ := exists_trimStart cs
  obtain ⟨v, hv, ht⟩ := exists_trimEnd (trimStart cs)
  refine ⟨u, v, hu, hv, ?_⟩
  rw [List.append_assoc, show trim cs = trimEnd (trimStart cs) from rfl, ← ht]
  exact hcs

/-! ## What trimming finds -/

theorem trimStart_of_head? (h : ∀ c ∈ cs.head?, isBlank c = false) : trimStart cs = cs := by
  cases cs with
  | nil => rfl
  | cons d ds =>
    have hd := h d rfl
    simp [trimStart, hd]

/-- Where nothing is taken off the front, a front of the text is left. -/
theorem trim_isPrefix (h : ∀ c ∈ cs.head?, isBlank c = false) : trim cs <+: cs := by
  obtain ⟨v, -, hcs⟩ := exists_trimEnd (trimStart cs)
  rw [trimStart_of_head? h] at hcs
  rw [trim, trimStart_of_head? h]
  exact ⟨v, hcs.symm⟩

theorem trimEnd_of_getLast? (h : ∀ c ∈ cs.getLast?, isBlank c = false) : trimEnd cs = cs := by
  unfold trimEnd
  have : trimStart cs.reverse = cs.reverse := trimStart_of_head? (by rwa [List.head?_reverse])
  rw [show List.dropWhile isBlank cs.reverse = trimStart cs.reverse from rfl, this, List.reverse_reverse]

theorem trim_of_tight (h : Tight cs) : trim cs = cs := by
  unfold trim
  rw [trimStart_of_head? h.1, trimEnd_of_getLast? h.2]

theorem trim_of_blanks (h : Blanks cs) : trim cs = [] := by
  have : trimStart (cs ++ []) = trimStart [] := trimStart_append h
  rw [List.append_nil] at this
  rw [trim, this]
  rfl

theorem trim_append (hu : Blanks u) (hv : Blanks v) : trim (u ++ cs ++ v) = trim cs := by
  unfold trim
  rw [List.append_assoc, trimStart_append hu]
  obtain ⟨w, hw, hcs⟩ := exists_trimStart cs
  cases h : trimStart cs with
  | nil =>
    rw [h, List.append_nil] at hcs
    subst hcs
    have := trim_of_blanks (hw.append hv)
    unfold trim at this
    rw [this]
    rfl
  | cons d ds =>
    have hd : isBlank d = false := @head?_trimStart cs d (by rw [h]; rfl)
    rw [hcs, h, List.append_assoc, trimStart_append hw,
      trimStart_of_head? (by rintro c ⟨⟩; exact hd), trimEnd_append hv]

end PointSum.Text
