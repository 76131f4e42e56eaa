import PointSum.Proofs.Text.Utf8
import PointSum.Text.Slice

/-!
# Places between characters

* `Cuts cs place` : the place is inside a character of the text; `not_cuts_append` : the length of a front is not, and
  `Cuts.exists_long` : where a place is there is a character of several bytes;
* `divideFrom_append`, `divideFrom_eq_error_iff` : a text is divided at the length of a front, and not where a place
  is inside a character;
* `slice_append`, `sliceFrom_append` : the parts behind a front;
* `cuts_of_slice`, `cuts_of_sliceFrom` : a part that is not there starts or stops inside a character.
-/

namespace PointSum.Text

set_option autoImplicit false

variable {a b c cs front rest : List Char} {n place start stop : Nat} {cut : Cut} {e : SliceFault}

theorem length_encode_cons (c : Char) (cs : List Char) :
    (encode (c :: cs)).length = c.utf8Size + (encode cs).length := by
  rw [encode, List.flatMap_cons, List.length_append, String.length_utf8EncodeChar]
  rfl

theorem length_encode_append (a b : List Char) : (encode (a ++ b)).length = (encode a).length + (encode b).length := by
  rw [encode_append, List.length_append]

/-! ## Places inside a character -/

/-- The place is inside a character. -/
def Cuts (cs : List Char) (place : Nat) : Prop :=
  ∃ front c back, cs = front ++ c :: back ∧ (encode front).length < place ∧
    place < (encode front).length + c.utf8Size

theorem not_cuts_append (a b : List Char) : ¬ Cuts (a ++ b) (encode a).length := by
  rintro ⟨front, c, back, happ, hlt, hgt⟩
  rcases List.append_eq_append_iff.1 happ with ⟨l, rfl, -⟩ | ⟨l, rfl, hl⟩
  · rw [length_encode_append] at hlt
    omega
  · rw [length_encode_append] at hlt hgt
    -- The front goes on behind the character or ends before it.
    cases l with
    | nil => exact absurd hlt (by simp [encode])
    | cons d l =>
      obtain ⟨rfl, -⟩ := List.cons.inj hl
      rw [length_encode_cons] at hgt
      omega

theorem Cuts.exists_long (h : Cuts cs place) : ∃ c ∈ cs, 1 < c.utf8Size := by
  obtain ⟨front, c, back, rfl, hlt, hgt⟩ := h
  exact ⟨c, by simp, by omega⟩

theorem Cuts.append_left (h : Cuts cs place) (front : List Char) :
    Cuts (front ++ cs) ((encode front).length + place) := by
  obtain ⟨a, c, b, rfl, hlt, hgt⟩ := h
  refine ⟨front ++ a, c, b, (List.append_assoc ..).symm, ?_, ?_⟩ <;>
  · rw [length_encode_append]
    omega

/-! ## Dividing -/

theorem map_eq_error_iff {α β ε : Type} {x : Except ε α} {f : α → β} {e : ε} : x.map f = .error e ↔ x = .error e := by
  cases x <;> simp [Except.map]

theorem divideFrom_append (n : Nat) (a b : List Char) :
    divideFrom n (a ++ b) (n + (encode a).length) = .ok (a, b) := by
  induction a generalizing n with
  | nil => cases b <;> simp [divideFrom, encode]
  | cons c a ih =>
    have hpos := c.utf8Size_pos
    rw [List.cons_append, divideFrom, length_encode_cons, if_neg (by omega), if_neg (by omega), ← Nat.add_assoc, ih]
    rfl

theorem divideFrom_eq_error_iff : divideFrom n cs place = .error cut ↔
    cut.place = place ∧ ∃ front back, cs = front ++ cut.character :: back ∧
      cut.first = n + (encode front).length ∧ cut.first < place ∧ place < cut.first + cut.character.utf8Size := by
  induction cs generalizing n with
  | nil => simp [divideFrom]
  | cons c cs ih =>
    rw [divideFrom]
    split
    · next hle =>
      simp only [reduceCtorEq, false_iff]
      rintro ⟨-, front, back, -, hfirst, hlt, -⟩
      omega
    · next hlt =>
      split
      · next hgt =>
        constructor
        · intro h
          obtain rfl := Except.error.inj h
          exact ⟨rfl, [], cs, rfl, rfl, Nat.lt_of_not_le hlt, hgt⟩
        · rintro ⟨rfl, front, back, happ, hfirst, hplace, -⟩
          cases front with
          | nil =>
            obtain ⟨rfl, -⟩ := List.cons.inj happ
            cases cut
            simp_all [encode]
          | cons d front =>
            obtain ⟨rfl, -⟩ := List.cons.inj happ
            rw [length_encode_cons] at hfirst
            omega
      · next hge =>
        rw [map_eq_error_iff, ih]
        refine and_congr_right fun _ => ?_
        constructor
        · rintro ⟨front, back, rfl, hfirst, hplace⟩
          refine ⟨c :: front, back, rfl, ?_, hplace⟩
          rw [length_encode_cons]
          omega
        · rintro ⟨front, back, happ, hfirst, hplace, hgt⟩
          cases front with
          | nil =>
            obtain ⟨rfl, -⟩ := List.cons.inj happ
            simp only [encode, List.flatMap_nil, List.length_nil] at hfirst
            omega
          | cons d front =>
            obtain ⟨rfl, rfl⟩ := List.cons.inj happ
            rw [length_encode_cons] at hfirst
            exact ⟨front, back, rfl, by omega, hplace, hgt⟩

theorem cuts_of_divideFrom (h : divideFrom n cs place = .error cut) : Cuts cs (place - n) := by
  obtain ⟨-, front, back, happ, hfirst, hlt, hgt⟩ := divideFrom_eq_error_iff.1 h
  exact ⟨front, cut.character, back, happ, by omega, by omega⟩

/-- What a text is divided into, unless the place is behind its end. -/
theorem divideFrom_eq_ok (h : divideFrom n cs place = .ok (front, rest)) (hle : n ≤ place) :
    cs = front ++ rest ∧ (rest = [] ∨ place = n + (encode front).length) := by
  induction cs generalizing n front with
  | nil =>
    obtain ⟨rfl, rfl⟩ := Prod.mk.inj (Except.ok.inj h)
    exact ⟨rfl, .inl rfl⟩
  | cons c cs ih =>
    rw [divideFrom] at h
    split at h
    · obtain ⟨rfl, rfl⟩ := Prod.mk.inj (Except.ok.inj h)
      exact ⟨rfl, .inr (by simp only [encode, List.flatMap_nil, List.length_nil]; omega)⟩
    · split at h
      · cases h
      · next hge =>
        cases hdivide : divideFrom (n + c.utf8Size) cs place with
        | error cut =>
          rw [hdivide] at h
          cases h
        | ok p =>
          obtain ⟨front', rest'⟩ := p
          rw [hdivide] at h
          obtain ⟨rfl, rfl⟩ := Prod.mk.inj (Except.ok.inj h)
          obtain ⟨rfl, hrest⟩ := ih hdivide (by omega)
          refine ⟨rfl, hrest.imp_right fun hplace => ?_⟩
          rw [length_encode_cons, hplace, Nat.add_assoc]

/-! ## Parts -/

theorem sliceFrom_append (a b : List Char) : sliceFrom (a ++ b) (encode a).length = .ok b := by
  have h := divideFrom_append 0 a b
  rw [Nat.zero_add] at h
  simp only [sliceFrom, h]

theorem slice_append (a b c : List Char) :
    slice (a ++ b ++ c) (encode a).length (encode (a ++ b)).length = .ok b := by
  rw [List.append_assoc, length_encode_append]
  simp only [slice, sliceFrom_append, divideFrom_append]

theorem cuts_of_sliceFrom (h : sliceFrom cs start = .error e) : Cuts cs start := by
  unfold sliceFrom at h
  split at h
  · cases h
  · next cut hcut => exact cuts_of_divideFrom hcut

theorem cuts_of_slice (h : slice cs start stop = .error e) (hle : start ≤ stop) : Cuts cs start ∨ Cuts cs stop := by
  unfold slice at h
  split at h
  · next hstart => exact .inl (cuts_of_sliceFrom hstart)
  · next rest hstart =>
    split at h
    · cases h
    · next cut hcut =>
      right
      unfold sliceFrom at hstart
      split at hstart
      · next front rest' hdivide =>
        obtain rfl := Except.ok.inj hstart
        obtain ⟨rfl, rfl | hplace⟩ := divideFrom_eq_ok hdivide (Nat.zero_le _)
        · cases hcut
        · have hcuts := (cuts_of_divideFrom hcut).append_left front
          rwa [show (encode front).length + (stop - start) = stop by omega] at hcuts
      · cases hstart

end PointSum.Text
