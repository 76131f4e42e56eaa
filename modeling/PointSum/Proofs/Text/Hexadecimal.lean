import PointSum.Number.Basic
import PointSum.Text.Quoted

/-!
# Hexadecimal numbers

* `readHex cs` : the number that hexadecimal digits of either case denote;
* `readHex_hexDigits`, `readHex_hexByte` : the digits of a number and those of a byte denote it;
* `mem_hexDigits` : the digits of a number are `0` to `9` and `a` to `f`.
-/

namespace PointSum.Text

set_option autoImplicit false

open Number (digitBelow?)

variable {c : Char} {n : Nat}

/-- The number that the digits denote, letters of either case among them. -/
def readHex (cs : List Char) : Nat :=
  cs.foldl (fun n c => 16 * n + (digitBelow? 16 c).getD 0) 0

theorem readHex_append_singleton (cs : List Char) (c : Char) :
    readHex (cs ++ [c]) = 16 * readHex cs + (digitBelow? 16 c).getD 0 := by
  rw [readHex, List.foldl_append, ← readHex]
  rfl

theorem digitBelow?_hexDigit (h : n < 16) : digitBelow? 16 (hexDigit n) = some n := by
  revert n
  decide

theorem digitBelow?_toUpper_hexDigit (h : n < 16) : digitBelow? 16 (hexDigit n).toUpper = some n := by
  revert n
  decide

theorem digitChar_eq_hexDigit (h : n < 16) : n.digitChar = hexDigit n := by
  revert n
  decide

theorem hexDigits_eq (n : Nat) :
    hexDigits n = if n < 16 then [hexDigit n] else hexDigits (n / 16) ++ [hexDigit (n % 16)] := by
  rw [hexDigits, Nat.toDigits_eq_if (by decide), digitChar_eq_hexDigit (Nat.mod_lt n (by decide)), hexDigits]
  exact ite_congr rfl (fun h => by rw [digitChar_eq_hexDigit h]) fun _ => rfl

theorem readHex_hexDigits (n : Nat) : readHex (hexDigits n) = n := by
  induction n using Nat.strongRecOn with
  | ind n ih =>
    rw [hexDigits_eq]
    split
    · next h => simp [readHex, digitBelow?_hexDigit h]
    · rw [readHex_append_singleton, ih (n / 16) (by omega), digitBelow?_hexDigit (by omega), Option.getD_some]
      omega

theorem mem_hexDigits (h : c ∈ hexDigits n) : ∃ d < 16, c = hexDigit d := by
  induction n using Nat.strongRecOn with
  | ind n ih =>
    rw [hexDigits_eq] at h
    split at h
    · next hn => exact ⟨n, hn, List.mem_singleton.1 h⟩
    · rcases List.mem_append.1 h with h | h
      · exact ih (n / 16) (by omega) h
      · exact ⟨n % 16, by omega, List.mem_singleton.1 h⟩

theorem readHex_hexByte (b : UInt8) : readHex (hexByte b) = b.toNat := by
  have hb := b.toNat_lt
  simp only [readHex, hexByte, List.foldl_cons, List.foldl_nil]
  rw [digitBelow?_toUpper_hexDigit (by omega), digitBelow?_toUpper_hexDigit (by omega)]
  simp only [Option.getD_some]
  omega

end PointSum.Text
