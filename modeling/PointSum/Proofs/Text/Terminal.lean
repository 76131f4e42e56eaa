import PointSum.Proofs.Text.Hexadecimal
import PointSum.Text.Quoted

/-!
# Text that holds no commands

* `Harmless cs` : `cs` has none of bell, backspace, form feed, escape, delete and U+0080 to U+009F;
* `harmless_disarm` : what `disarm` writes is harmless, `disarm_of_harmless` : a harmless text stays as it is;
* `disarm_append` : texts are disarmed piece by piece.
-/

namespace PointSum.Text

set_option autoImplicit false

variable {c : Char} {cs ds : List Char}

/-- None of the characters is one that a terminal obeys. -/
def Harmless (cs : List Char) : Prop :=
  ∀ c ∈ cs, c ∉ ['\x07', '\x08', '\x0c', '\x1b', '\x7f'] ∧ ¬ (0x80 ≤ c.toNat ∧ c.toNat ≤ 0x9F)

instance (cs : List Char) : Decidable (Harmless cs) := List.decidableBAll _ cs

theorem harmless_append : Harmless (cs ++ ds) ↔ Harmless cs ∧ Harmless ds :=
  List.forall_mem_append

theorem isCommandChar_eq_false_iff : isCommandChar c = false ↔ Harmless [c] := by
  simp [isCommandChar, Harmless, and_assoc]

/-! ## One character -/

theorem harmless_hexDigit {d : Nat} (h : d < 16) : Harmless [hexDigit d] := by
  have hall : ∀ d < 16, Harmless [hexDigit d] := by decide
  exact hall d h

theorem harmless_codePoint (c : Char) : Harmless (codePoint c) := by
  have hdigits : Harmless (hexDigits c.toNat) := by
    intro e he
    obtain ⟨d, hd, rfl⟩ := mem_hexDigits he
    exact harmless_hexDigit hd _ (List.mem_singleton_self _)
  exact harmless_append.2 ⟨harmless_append.2 ⟨by decide, hdigits⟩, by decide⟩

theorem harmless_byte (h : c.toNat < 0x80) :
    Harmless ['\\', 'x', hexDigit (c.toNat / 16), hexDigit (c.toNat % 16)] := by
  have hhigh := harmless_hexDigit (show c.toNat / 16 < 16 by omega)
  have hlow := harmless_hexDigit (show c.toNat % 16 < 16 by omega)
  exact harmless_append.2 ⟨show Harmless ['\\', 'x'] by decide, harmless_append.2 ⟨hhigh, hlow⟩⟩

theorem harmless_disarmChar (c : Char) : Harmless (disarmChar c) := by
  unfold disarmChar
  split
  · next h => exact isCommandChar_eq_false_iff.1 (by simpa using h)
  · next h =>
    split
    · next hlow => exact harmless_byte hlow
    · exact harmless_codePoint c

/-! ## Texts -/

theorem disarm_append (cs ds : List Char) : disarm (cs ++ ds) = disarm cs ++ disarm ds :=
  List.flatMap_append

theorem harmless_disarm (cs : List Char) : Harmless (disarm cs) := by
  intro c hc
  obtain ⟨d, -, hd⟩ := List.mem_flatMap.1 hc
  exact harmless_disarmChar d c hd

theorem disarm_of_harmless (h : Harmless cs) : disarm cs = cs := by
  induction cs with
  | nil => rfl
  | cons c cs ih =>
    obtain ⟨hc, hcs⟩ := harmless_append.1 (show Harmless ([c] ++ cs) from h)
    rw [disarm, List.flatMap_cons, ← disarm, ih hcs, disarmChar, isCommandChar_eq_false_iff.2 hc]
    rfl

end PointSum.Text
