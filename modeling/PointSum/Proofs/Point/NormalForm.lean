import PointSum.Proofs.Point.Grammar

/-!
# The normal form of a point

* `read_padded_text` : the text of a point of words is read as the point, whatever blank characters stand around it;
* `text_injective` : points with the same text are equal;
* `Normalizes f raw t` : `t` is the text of the point that `raw` is read as; `Normalizes.self` : a normal form is its
  own, `Normalizes.eq_iff` : texts of the same point, and only these, have one normal form;
* `text_isNormalForm` : all of it for the words of every format.
-/

namespace PointSum

set_option autoImplicit false

open Text Number

variable {f : WordFormat} {raw raw' t t' : String} {p p' : Point (Word f)} {u v : List Char}

/-! ## Texts of points -/

theorem read_padded_text (hu : Blanks u) (hv : Blanks v) (p : Point (Word f)) :
    Point.read (Word f) (.ofList (u ++ p.text.toList ++ v)) = .ok p := by
  apply read_append hu hv
  rw [String.ofList_toList]
  exact read_text_word p

theorem text_injective : Function.Injective (Point.text : Point (Word f) → String) := by
  intro p q h
  have hread := read_text_word p
  rw [h, read_text_word] at hread
  exact (Except.ok.inj hread).symm

/-! ## Normal forms -/

/-- The text is the one that the point of a raw text is written as. -/
def Normalizes (f : WordFormat) (raw t : String) : Prop :=
  ∃ p, Point.read (Word f) raw = .ok p ∧ t = p.text

theorem normalizes_text (h : Point.read (Word f) raw = .ok p) : Normalizes f raw p.text := ⟨p, h, rfl⟩

theorem Normalizes.self (h : Normalizes f raw t) : Normalizes f t t := by
  obtain ⟨p, -, rfl⟩ := h
  exact normalizes_text (read_text_word p)

theorem Normalizes.eq_iff (h : Normalizes f raw t) (h' : Normalizes f raw' t') :
    t = t' ↔ Point.read (Word f) raw = Point.read (Word f) raw' := by
  obtain ⟨p, hp, rfl⟩ := h
  obtain ⟨p', hp', rfl⟩ := h'
  rw [hp, hp', Except.ok.injEq]
  exact text_injective.eq_iff

/-- The text of a point is read as the point, also between blank characters. It is the normal form of every text that
is read as the point: it is read as the same point, it is its own normal form, and two texts that are read have one
normal form if and only if they are read as one point. -/
theorem text_isNormalForm (f : WordFormat) :
    (∀ (p : Point (Word f)) (u v : List Char), Blanks u → Blanks v →
      Point.read (Word f) (.ofList (u ++ p.text.toList ++ v)) = .ok p) ∧
    (∀ raw p, Point.read (Word f) raw = .ok p →
      Point.read (Word f) p.text = .ok p ∧ Normalizes f raw p.text ∧ Normalizes f p.text p.text ∧
        ∀ raw' p', Point.read (Word f) raw' = .ok p' → (p = p' ↔ p.text = p'.text)) := by
  refine ⟨fun p u v hu hv => read_padded_text hu hv p, fun raw p hp => ?_⟩
  have hnormal := normalizes_text hp
  refine ⟨read_text_word p, hnormal, hnormal.self, fun raw' p' hp' => ?_⟩
  rw [hnormal.eq_iff (normalizes_text hp'), hp, hp', Except.ok.injEq]

theorem text_isNormalForm_least :
    (Blanks ['\x09', '\u3000'] ∧ Blanks ['\n'] ∧
      Point.read (Word .int8) (.ofList (['\x09', '\u3000'] ++ (⟨⟨-128#8⟩, ⟨127#8⟩⟩ : Point (Word .int8)).text.toList ++
        ['\n'])) = .ok ⟨⟨-128#8⟩, ⟨127#8⟩⟩) ∧
    (Point.read (Word .int8) "( -0128,+127 ) " = .ok ⟨⟨-128#8⟩, ⟨127#8⟩⟩ ∧
      Normalizes .int8 "( -0128,+127 ) " "(-128, 127)" ∧ Normalizes .int8 "(-128, 127)" "(-128, 127)") ∧
    (Point.read (Word .int8) " -128 , 00126" = .ok ⟨⟨-128#8⟩, ⟨126#8⟩⟩ ∧
      ((⟨⟨-128#8⟩, ⟨127#8⟩⟩ : Point (Word .int8)) = ⟨⟨-128#8⟩, ⟨126#8⟩⟩ ↔
        "(-128, 127)" = (⟨⟨-128#8⟩, ⟨126#8⟩⟩ : Point (Word .int8)).text)) := by
  have hread : Point.read (Word .int8) "( -0128,+127 ) " = .ok ⟨⟨-128#8⟩, ⟨127#8⟩⟩ := by decide +kernel
  have hother : Point.read (Word .int8) " -128 , 00126" = .ok ⟨⟨-128#8⟩, ⟨126#8⟩⟩ := by decide +kernel
  have hright : Blanks ['\n'] := List.forall_mem_singleton.2 rfl
  have hleft : Blanks ['\x09', '\u3000'] := List.forall_mem_cons.2 ⟨rfl, List.forall_mem_singleton.2 rfl⟩
  have htext : (⟨⟨-128#8⟩, ⟨127#8⟩⟩ : Point (Word .int8)).text = "(-128, 127)" := by decide +kernel
  obtain ⟨hpadded, hnormal⟩ := text_isNormalForm .int8
  obtain ⟨-, hraw, hself, hdiffer⟩ := hnormal _ _ hread
  rw [htext] at hraw hself hdiffer
  exact ⟨⟨hleft, hright, hpadded _ _ _ hleft hright⟩, ⟨hread, hraw, hself⟩, hother, hdiffer _ _ hother⟩

end PointSum
