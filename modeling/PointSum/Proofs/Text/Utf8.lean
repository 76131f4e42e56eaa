import Mathlib.Algebra.Group.Nat.Defs
import Mathlib.Tactic.SplitIfs
import PointSum.Text.Utf8

/-!
# Texts and their bytes

* `tail k n` : the last `k` bytes of a character of several bytes, six bits of its code point `n` each;
* `Opened.Leads o n` : the code point `n` begins with the bits read, and its next byte is one that may follow;
  `piecesFrom_tail` : the bytes that are missing then complete the character;
* `Opened.Sound o` : a code point that goes on so is a character, and its bytes begin with those read;
  `Sound.push`, `sound_of_ofLead?` : a byte that may follow keeps this, a lead byte brings it about;
* `bytes_pieces` : the pieces of a byte string hold all its bytes in their order;
* `decode?_eq_some_iff` : the byte strings that are decoded are the bytes of texts, each to its text;
* `decode?_append_ascii` : a byte below 0x80 divides a text, `mem_of_mem_encode` : and stands for its character.
-/

namespace PointSum.Text

set_option autoImplicit false

variable {o : Opened} {b : UInt8} {bs : Bytes} {c : Char} {cs : List Char} {n : Nat}

/-- The last bytes of a character of several bytes. -/
def tail : Nat → Nat → Bytes
  | 0, _ => []
  | k + 1, n => .ofNat (n / 64 ^ k % 64 + 0x80) :: tail k n

/-! ## Bytes that follow a lead byte -/

/-- Whether the byte may follow those read. -/
def Opened.Takes (o : Opened) (b : UInt8) : Prop := o.least ≤ b ∧ b ≤ o.greatest

theorem piecesFrom_complete (hb : o.Takes b) (hm : o.missing = 1) (bs : Bytes) :
    piecesFrom (some o) (b :: bs) = .character (Char.ofNat (o.push b).value) :: pieces bs := by
  have hzero : (o.push b).missing = 0 := by simp [Opened.push, hm]
  simp [piecesFrom, nextByte, hb.1, hb.2, hzero, pieces]

theorem piecesFrom_push (hb : o.Takes b) (hm : 1 < o.missing) (bs : Bytes) :
    piecesFrom (some o) (b :: bs) = piecesFrom (some (o.push b)) bs := by
  have hpos : (o.push b).missing ≠ 0 := by
    simp only [Opened.push]
    omega
  simp [piecesFrom, nextByte, hb.1, hb.2, hpos]

theorem piecesFrom_broken (hb : ¬ o.Takes b) (bs : Bytes) :
    piecesFrom (some o) (b :: bs) = .broken o.read.reverse :: pieces (b :: bs) := by
  have : ¬ (decide (o.least ≤ b) && decide (b ≤ o.greatest)) = true := by
    simpa [Opened.Takes] using hb
  simp [piecesFrom, nextByte, this, pieces]

/-- The code point begins with the bits read, and its next six bits make a byte that may follow. -/
structure Opened.Leads (o : Opened) (n : Nat) : Prop where
  value : n / 64 ^ o.missing = o.value
  takes : o.Takes (.ofNat (n / 64 ^ (o.missing - 1) % 64 + 0x80))

theorem toNat_ofNat_six (n : Nat) : (UInt8.ofNat (n % 64 + 0x80)).toNat = n % 64 + 0x80 := by
  rw [UInt8.toNat_ofNat']
  omega

theorem div_pow_pred {k : Nat} (hk : 0 < k) (n : Nat) : n / 64 ^ (k - 1) / 64 = n / 64 ^ k := by
  rw [Nat.div_div_eq_div_mul, ← Nat.pow_succ, Nat.succ_eq_add_one, Nat.sub_add_cancel hk]

theorem Opened.Leads.value_push (h : o.Leads n) (hm : 0 < o.missing) :
    (o.push (.ofNat (n / 64 ^ (o.missing - 1) % 64 + 0x80))).value = n / 64 ^ (o.missing - 1) := by
  have := div_pow_pred hm n
  have := h.value
  simp only [Opened.push, toNat_ofNat_six]
  omega

theorem takes_push (o : Opened) (b : UInt8) (n : Nat) : (o.push b).Takes (.ofNat (n % 64 + 0x80)) := by
  have h := toNat_ofNat_six n
  refine ⟨UInt8.le_iff_toNat_le.2 ?_, UInt8.le_iff_toNat_le.2 ?_⟩
  · rw [h]
    exact Nat.le_add_left _ _
  · rw [h]
    change _ ≤ 0xBF
    omega

theorem Opened.Leads.push (h : o.Leads n) (hm : 0 < o.missing) :
    (o.push (.ofNat (n / 64 ^ (o.missing - 1) % 64 + 0x80))).Leads n :=
  ⟨(h.value_push hm).symm, takes_push _ _ _⟩

/-- The bytes that are missing complete the character. -/
theorem piecesFrom_tail (h : o.Leads n) (hm : 0 < o.missing) (bs : Bytes) :
    piecesFrom (some o) (tail o.missing n ++ bs) = .character (Char.ofNat n) :: pieces bs := by
  obtain ⟨k, hk⟩ : ∃ k, o.missing = k + 1 := ⟨o.missing - 1, by omega⟩
  induction k generalizing o with
  | zero =>
    have htakes := h.takes
    have hvalue := h.value_push hm
    simp only [hk, Nat.zero_add, Nat.sub_self, Nat.pow_zero, Nat.div_one] at htakes hvalue
    simp only [hk, tail, Nat.pow_zero, Nat.div_one, List.cons_append, List.nil_append]
    rw [piecesFrom_complete htakes hk, hvalue]
  | succ k ih =>
    have htakes := h.takes
    have hpush := h.push hm
    simp only [hk, Nat.add_sub_cancel] at htakes hpush
    have hmissing : (o.push (.ofNat (n / 64 ^ (k + 1) % 64 + 0x80))).missing = k + 1 := by
      simp [Opened.push, hk]
    have hrest := ih hpush (by omega) hmissing
    rw [hmissing] at hrest
    rw [hk, tail, List.cons_append, piecesFrom_push htakes (by omega), hrest]

/-! ## Lead bytes -/

/-- A code point that goes on as it may is a character, and its bytes begin with those read. -/
structure Opened.Sound (o : Opened) : Prop where
  missing_pos : 0 < o.missing
  least : 0x80 ≤ o.least
  greatest : o.greatest ≤ 0xBF
  encode : ∀ n, o.Leads n →
    n.isValidChar ∧ String.utf8EncodeChar (Char.ofNat n) = o.read.reverse ++ tail o.missing n

theorem Opened.Sound.bounds (h : o.Sound) (hb : o.Takes b) : 0x80 ≤ b.toNat ∧ b.toNat ≤ 0xBF := by
  have hl := UInt8.le_iff_toNat_le.1 (UInt8.le_trans h.least hb.1)
  have hg := UInt8.le_iff_toNat_le.1 (UInt8.le_trans hb.2 h.greatest)
  exact ⟨hl, hg⟩

/-- A byte that may follow holds the next six bits. -/
theorem Opened.Sound.leads (h : o.Sound) (hb : o.Takes b) (hn : n / 64 ^ (o.missing - 1) = (o.push b).value) :
    o.Leads n ∧ UInt8.ofNat (n / 64 ^ (o.missing - 1) % 64 + 0x80) = b := by
  obtain ⟨hl, hg⟩ := h.bounds hb
  have hdiv := div_pow_pred h.missing_pos n
  have hvalue : (o.push b).value = o.value * 64 + (b.toNat - 0x80) := rfl
  have hbyte : UInt8.ofNat (n / 64 ^ (o.missing - 1) % 64 + 0x80) = b := by
    rw [← UInt8.toNat_inj, toNat_ofNat_six]
    omega
  exact ⟨⟨by omega, hbyte.symm ▸ hb⟩, hbyte⟩

theorem Opened.Sound.push (h : o.Sound) (hb : o.Takes b) (hm : 1 < o.missing) : (o.push b).Sound := by
  obtain ⟨k, hk⟩ : ∃ k, o.missing = k + 2 := ⟨o.missing - 2, by omega⟩
  have hmissing : (o.push b).missing = k + 1 := by simp [Opened.push, hk]
  refine ⟨by omega, UInt8.le_refl _, UInt8.le_refl _, ?_⟩
  intro n hn
  have hvalue := hn.value
  rw [hmissing] at hvalue
  obtain ⟨hleads, hbyte⟩ := h.leads hb (n := n) (by rw [hk]; exact hvalue)
  obtain ⟨hvalid, henc⟩ := h.encode n hleads
  rw [hk] at hbyte
  refine ⟨hvalid, ?_⟩
  rw [henc, hk, hmissing, tail, show UInt8.ofNat (n / 64 ^ (k + 1) % 64 + 0x80) = b from hbyte]
  simp [Opened.push]

theorem Opened.Sound.complete (h : o.Sound) (hb : o.Takes b) (hm : o.missing = 1) :
    String.utf8EncodeChar (Char.ofNat (o.push b).value) = o.read.reverse ++ [b] := by
  obtain ⟨hleads, hbyte⟩ := h.leads hb (n := (o.push b).value) (by simp [hm])
  rw [(h.encode _ hleads).2, hm, tail, tail]
  rw [hm] at hbyte
  rw [show UInt8.ofNat ((o.push b).value / 64 ^ 0 % 64 + 0x80) = b from hbyte]

theorem toNat_ofNat_of_valid (h : n.isValidChar) : (Char.ofNat n).val.toNat = n := by
  unfold Char.ofNat
  rw [dif_pos h]
  unfold Char.ofNatAux
  simp

/-- The bytes of a character, by the size of its code point. -/
theorem utf8EncodeChar_ofNat (h : n.isValidChar) :
    String.utf8EncodeChar (Char.ofNat n) =
      if n ≤ 0x7F then [.ofNat n]
      else if n ≤ 0x7FF then .ofNat (n / 64 + 0xC0) :: tail 1 n
      else if n ≤ 0xFFFF then .ofNat (n / 4096 + 0xE0) :: tail 2 n
      else .ofNat (n / 262144 + 0xF0) :: tail 3 n := by
  unfold String.utf8EncodeChar
  simp only [toNat_ofNat_of_valid h, tail]
  split
  · rfl
  split
  · next hn =>
    rw [Nat.mod_eq_of_lt (show n / 64 < 32 by omega)]
    simp
  split
  · next hn =>
    rw [Nat.mod_eq_of_lt (show n / 4096 < 16 by omega)]
    simp
  · have : n / 262144 < 8 := by
      rcases h with h | h <;> omega
    rw [Nat.mod_eq_of_lt this]
    simp

/-- The code point is that of a character with `m` bytes behind its lead byte. -/
def Spreads (m n : Nat) : Prop :=
  m = 1 ∧ 0x80 ≤ n ∧ n ≤ 0x7FF ∨
  m = 2 ∧ 0x800 ≤ n ∧ n ≤ 0xFFFF ∧ (n < 0xD800 ∨ 0xDFFF < n) ∨
  m = 3 ∧ 0x10000 ≤ n ∧ n ≤ 0x10FFFF

/-- The lead byte of a character with `m` bytes behind it. -/
def leadByte (m n : Nat) : Nat :=
  n / 64 ^ m + if m = 1 then 0xC0 else if m = 2 then 0xE0 else 0xF0

theorem utf8EncodeChar_spreads {m : Nat} (h : Spreads m n) :
    n.isValidChar ∧ String.utf8EncodeChar (Char.ofNat n) = .ofNat (leadByte m n) :: tail m n := by
  have hn : n.isValidChar := by
    rw [Spreads] at h
    rw [Nat.isValidChar]
    omega
  refine ⟨hn, ?_⟩
  rw [utf8EncodeChar_ofNat hn]
  rcases h with ⟨rfl, h⟩ | ⟨rfl, h⟩ | ⟨rfl, h⟩
  · rw [if_neg (by omega), if_pos h.2]
    rfl
  · rw [if_neg (by omega), if_neg (by omega), if_pos h.2.1]
    rfl
  · rw [if_neg (by omega), if_neg (by omega), if_neg (by omega)]
    rfl

theorem exists_spreads (hn : n.isValidChar) (h : 0x80 ≤ n) :
    ∃ m, Spreads m n := by
  rw [Nat.isValidChar] at hn
  by_cases h₁ : n ≤ 0x7FF
  · exact ⟨1, .inl ⟨rfl, h, h₁⟩⟩
  by_cases h₂ : n ≤ 0xFFFF
  · exact ⟨2, .inr (.inl ⟨rfl, by omega, h₂, by omega⟩)⟩
  · exact ⟨3, .inr (.inr ⟨rfl, by omega, by omega⟩)⟩

theorem takes_six_iff : o.Takes (.ofNat (n % 64 + 0x80)) ↔
    o.least.toNat ≤ n % 64 + 0x80 ∧ n % 64 + 0x80 ≤ o.greatest.toNat := by
  rw [Opened.Takes, UInt8.le_iff_toNat_le, UInt8.le_iff_toNat_le, toNat_ofNat_six]

theorem leads_iff : o.Leads n ↔ n / 64 ^ o.missing = o.value ∧
    o.least.toNat ≤ n / 64 ^ (o.missing - 1) % 64 + 0x80 ∧
    n / 64 ^ (o.missing - 1) % 64 + 0x80 ≤ o.greatest.toNat := by
  rw [← takes_six_iff]
  exact ⟨fun h => ⟨h.1, h.2⟩, fun h => ⟨h.1, h.2⟩⟩

/-- A lead byte opens the characters that begin with it. -/
theorem leads_iff_of_ofLead? (h : Opened.ofLead? b = some o) :
    o.read = [b] ∧ 0x80 ≤ o.least ∧ o.greatest ≤ 0xBF ∧ 0 < o.missing ∧
      ∀ n, o.Leads n ↔ Spreads o.missing n ∧ leadByte o.missing n = b.toNat := by
  unfold Opened.ofLead? at h
  simp only [Bool.and_eq_true, decide_eq_true_eq, UInt8.le_iff_toNat_le, beq_iff_eq, ← UInt8.toNat_inj,
    UInt8.reduceToNat] at h
  split_ifs at h <;>
  · obtain rfl := Option.some.inj h
    refine ⟨rfl, by simp, by simp, by simp, ?_⟩
    intro n
    simp only [leads_iff, Spreads, leadByte, UInt8.reduceToNat, Nat.reduceEqDiff, reduceIte, true_and, false_and,
      or_false, false_or]
    omega

theorem not_ascii_of_ofLead? (h : Opened.ofLead? b = some o) : ¬ b < 0x80 := by
  unfold Opened.ofLead? at h
  simp only [Bool.and_eq_true, decide_eq_true_eq, UInt8.le_iff_toNat_le, beq_iff_eq, ← UInt8.toNat_inj,
    UInt8.reduceToNat] at h
  simp only [UInt8.lt_iff_toNat_lt, UInt8.reduceToNat]
  split_ifs at h <;> omega

theorem sound_of_ofLead? (h : Opened.ofLead? b = some o) : o.Sound ∧ o.read = [b] := by
  obtain ⟨hread, hleast, hgreatest, hmissing, hleads⟩ := leads_iff_of_ofLead? h
  refine ⟨⟨hmissing, hleast, hgreatest, ?_⟩, hread⟩
  intro n hn
  obtain ⟨hspreads, hbyte⟩ := (hleads n).1 hn
  obtain ⟨hvalid, henc⟩ := utf8EncodeChar_spreads hspreads
  refine ⟨hvalid, ?_⟩
  rw [henc, hbyte, UInt8.ofNat_toNat, hread]
  rfl

/-- A character of several bytes is opened by its lead byte. -/
theorem exists_ofLead? {m : Nat} (h : Spreads m n) :
    ∃ o, Opened.ofLead? (.ofNat (leadByte m n)) = some o ∧ o.missing = m ∧ o.Leads n := by
  have hbounds : m = 1 ∧ 0xC2 ≤ leadByte m n ∧ leadByte m n ≤ 0xDF ∨
      m = 2 ∧ 0xE0 ≤ leadByte m n ∧ leadByte m n ≤ 0xEF ∨
      m = 3 ∧ 0xF0 ≤ leadByte m n ∧ leadByte m n ≤ 0xF4 := by
    unfold leadByte
    rcases h with ⟨rfl, h⟩ | ⟨rfl, h⟩ | ⟨rfl, h⟩ <;>
    · simp only [Nat.reduceEqDiff, reduceIte, true_and, false_and, or_false, false_or]
      omega
  have hnat : (UInt8.ofNat (leadByte m n)).toNat = leadByte m n :=
    UInt8.toNat_ofNat_of_lt' (show leadByte m n < 256 by omega)
  obtain ⟨o, ho, hm⟩ : ∃ o, Opened.ofLead? (.ofNat (leadByte m n)) = some o ∧ o.missing = m := by
    unfold Opened.ofLead?
    simp only [Bool.and_eq_true, decide_eq_true_eq, UInt8.le_iff_toNat_le, beq_iff_eq, ← UInt8.toNat_inj,
      UInt8.reduceToNat, hnat]
    split_ifs <;> first
      | omega
      | refine ⟨_, rfl, ?_⟩
        dsimp only
        omega
  obtain ⟨-, -, -, -, hleads⟩ := leads_iff_of_ofLead? ho
  refine ⟨o, ho, hm, (hleads n).2 ?_⟩
  rw [hm]
  exact ⟨h, hnat.symm⟩

/-! ## Texts -/

theorem mapM_character?_cons (c : Char) (ps : List Piece) :
    (Piece.character c :: ps).mapM Piece.character? = (ps.mapM Piece.character?).map (c :: ·) := by
  rw [List.mapM_cons]
  cases ps.mapM Piece.character? <;> rfl

theorem eq_map_of_mapM {ps : List Piece} (h : ps.mapM Piece.character? = some cs) : ps = cs.map .character := by
  induction ps generalizing cs with
  | nil =>
    obtain rfl : cs = [] := by simpa using h.symm
    rfl
  | cons p ps ih =>
    cases p with
    | character c =>
      rw [mapM_character?_cons] at h
      obtain ⟨ds, hds, rfl⟩ := Option.map_eq_some_iff.1 h
      rw [ih hds, List.map_cons]
    | broken w => cases h

theorem pieces_ascii (h : b < 0x80) (bs : Bytes) :
    pieces (b :: bs) = .character (Char.ofNat b.toNat) :: pieces bs := by
  simp [pieces, piecesFrom, nextByte, beginByte, h]

theorem pieces_lead (h : ¬ b < 0x80) (ho : Opened.ofLead? b = some o) (bs : Bytes) :
    pieces (b :: bs) = piecesFrom (some o) bs := by
  simp [pieces, piecesFrom, nextByte, beginByte, h, ho]

theorem pieces_broken (h : ¬ b < 0x80) (ho : Opened.ofLead? b = none) (bs : Bytes) :
    pieces (b :: bs) = .broken [b] :: pieces bs := by
  simp [pieces, piecesFrom, nextByte, beginByte, h, ho]

theorem utf8EncodeChar_byte (h : b < 0x80) : String.utf8EncodeChar (Char.ofNat b.toNat) = [b] := by
  have hb : b.toNat < 0x80 := UInt8.lt_iff_toNat_lt.1 h
  rw [utf8EncodeChar_ofNat (.inl (by omega)), if_pos (by omega), UInt8.ofNat_toNat]

/-- The bytes of a character are read as the character. -/
theorem pieces_utf8EncodeChar (c : Char) (bs : Bytes) :
    pieces (String.utf8EncodeChar c ++ bs) = .character c :: pieces bs := by
  have hc : Char.ofNat c.toNat = c := Char.ofNat_toNat c
  by_cases h : c.toNat < 0x80
  · have hb : (UInt8.ofNat c.toNat).toNat = c.toNat :=
      UInt8.toNat_ofNat_of_lt' (Nat.lt_trans h (by decide))
    have hlt : UInt8.ofNat c.toNat < 0x80 := UInt8.lt_iff_toNat_lt.2 (by rw [hb]; exact h)
    have henc := utf8EncodeChar_byte hlt
    rw [hb, hc] at henc
    rw [henc, List.cons_append, List.nil_append, pieces_ascii hlt, hb, hc]
  · obtain ⟨m, hm⟩ := exists_spreads (n := c.toNat) c.valid (by omega)
    obtain ⟨o, ho, rfl, hleads⟩ := exists_ofLead? hm
    have henc := (utf8EncodeChar_spreads hm).2
    rw [hc] at henc
    have hmissing := (sound_of_ofLead? ho).1.missing_pos
    rw [henc, List.cons_append, pieces_lead (not_ascii_of_ofLead? ho) ho, piecesFrom_tail hleads hmissing, hc]

theorem decode?_encode (cs : List Char) : decode? (encode cs) = some cs := by
  induction cs with
  | nil => rfl
  | cons c cs ih =>
    unfold decode? at ih ⊢
    rw [encode, List.flatMap_cons, pieces_utf8EncodeChar, mapM_character?_cons]
    rw [show List.flatMap String.utf8EncodeChar cs = encode cs from rfl, ih]
    rfl

/-- The bytes of a piece. -/
def Piece.bytes : Piece → Bytes
  | .character c => String.utf8EncodeChar c
  | .broken bytes => bytes

/-- The pieces hold the bytes read before and the bytes that follow, all in their order. -/
theorem bytes_piecesFrom {opened : Option Opened} (hopened : ∀ o ∈ opened, o.Sound) (bs : Bytes) :
    (piecesFrom opened bs).flatMap Piece.bytes = (opened.map fun o => o.read.reverse).getD [] ++ bs := by
  -- The state is general and its character sound: a byte that fits keeps it so, and one that does not begins anew.
  induction bs generalizing opened with
  | nil =>
    cases opened with
    | none => rfl
    | some o => simp [piecesFrom, Piece.bytes]
  | cons b bs ih =>
    have hpieces : (pieces bs).flatMap Piece.bytes = bs := @ih none (by rintro _ ⟨⟩)
    have hbegin : (pieces (b :: bs)).flatMap Piece.bytes = b :: bs := by
      by_cases hb : b < 0x80
      · rw [pieces_ascii hb, List.flatMap_cons, hpieces, Piece.bytes, utf8EncodeChar_byte hb]
        rfl
      · cases ho : Opened.ofLead? b with
        | none =>
          rw [pieces_broken hb ho, List.flatMap_cons, hpieces]
          rfl
        | some o =>
          obtain ⟨hsound, hread⟩ := sound_of_ofLead? ho
          rw [pieces_lead hb ho, ih (by rintro _ ⟨⟩; exact hsound)]
          simp [hread]
    cases opened with
    | none => exact hbegin
    | some o =>
      have hsound := hopened o rfl
      by_cases hb : o.Takes b
      · by_cases hm : o.missing = 1
        · rw [piecesFrom_complete hb hm, List.flatMap_cons, hpieces, Piece.bytes, hsound.complete hb hm]
          simp
        · have hm : 1 < o.missing := by
            have := hsound.missing_pos
            omega
          rw [piecesFrom_push hb hm, ih (by rintro _ ⟨⟩; exact hsound.push hb hm)]
          simp [Opened.push]
      · rw [piecesFrom_broken hb, List.flatMap_cons, hbegin]
        rfl

/-- Nothing of a byte string is lost in its pieces. -/
theorem bytes_pieces (bs : Bytes) : (pieces bs).flatMap Piece.bytes = bs :=
  bytes_piecesFrom (by rintro _ ⟨⟩) bs

/-- The byte strings that are decoded are the bytes of texts, each to its text. -/
theorem decode?_eq_some_iff : decode? bs = some cs ↔ encode cs = bs := by
  constructor
  · intro h
    rw [← bytes_pieces bs, eq_map_of_mapM h, List.flatMap_map]
    rfl
  · rintro rfl
    exact decode?_encode cs

theorem decode?_eq_none_iff : decode? bs = none ↔ ∀ cs, encode cs ≠ bs := by
  rw [Option.eq_none_iff_forall_ne_some]
  exact forall_congr' fun cs => not_congr decode?_eq_some_iff

theorem encode_injective : Function.Injective encode := by
  intro cs ds h
  have := decode?_encode cs
  rw [h, decode?_encode] at this
  exact (Option.some.inj this).symm

theorem encode_append (cs ds : List Char) : encode (cs ++ ds) = encode cs ++ encode ds :=
  List.flatMap_append

/-! ## Bytes below 0x80 -/

theorem decode?_cons_ascii (h : b < 0x80) (bs : Bytes) :
    decode? (b :: bs) = (decode? bs).map (Char.ofNat b.toNat :: ·) := by
  rw [decode?, pieces_ascii h, mapM_character?_cons, decode?]

theorem least_of_nextByte {opened : Option Opened} (hopened : ∀ o ∈ opened, 0x80 ≤ o.least) :
    ∀ o ∈ (nextByte opened b).2, 0x80 ≤ o.least := by
  have hbegin : ∀ o ∈ (beginByte b).2, 0x80 ≤ o.least := by
    unfold beginByte
    split
    · rintro o ⟨⟩
    · cases ho : Opened.ofLead? b with
      | none => rintro o ⟨⟩
      | some o =>
        rintro o ⟨⟩
        exact (sound_of_ofLead? ho).1.least
  cases opened with
  | none => exact hbegin
  | some o =>
    simp only [nextByte]
    split_ifs
    · rintro o ⟨⟩
    · rintro o ⟨⟩
      exact UInt8.le_refl _
    · exact hbegin

/-- A byte below 0x80 is a character wherever it stands, and ends what is open. -/
theorem piecesFrom_append_ascii {opened : Option Opened} (hopened : ∀ o ∈ opened, 0x80 ≤ o.least) (h : b < 0x80)
    (as bs : Bytes) :
    piecesFrom opened (as ++ b :: bs) = piecesFrom opened as ++ .character (Char.ofNat b.toNat) :: pieces bs := by
  induction as generalizing opened with
  | nil =>
    cases opened with
    | none => exact pieces_ascii h bs
    | some o =>
      have hb : ¬ o.least ≤ b := UInt8.not_le.2 (UInt8.lt_of_lt_of_le h (hopened o rfl))
      simp [piecesFrom, nextByte, beginByte, h, hb, pieces]
  | cons a as ih =>
    simp only [List.cons_append, piecesFrom, List.append_assoc]
    rw [ih (least_of_nextByte hopened)]

/-- A byte below 0x80 divides a text: what stands before it and behind it are texts. -/
theorem decode?_append_ascii {as : Bytes} (h : b < 0x80) (hcs : decode? (as ++ b :: bs) = some cs) :
    ∃ ds es, decode? as = some ds ∧ cs = ds ++ Char.ofNat b.toNat :: es := by
  rw [decode?, pieces, piecesFrom_append_ascii (by rintro _ ⟨⟩) h, List.mapM_append, mapM_character?_cons] at hcs
  obtain ⟨ds, hds, hrest⟩ := Option.bind_eq_some_iff.1 hcs
  obtain ⟨_, hes, hcs⟩ := Option.bind_eq_some_iff.1 hrest
  obtain ⟨es, -, rfl⟩ := Option.map_eq_some_iff.1 hes
  exact ⟨ds, es, hds, (Option.some.inj hcs).symm⟩

/-- A byte below 0x80 stands only where its character does. -/
theorem mem_of_mem_encode (h : b < 0x80) (hb : b ∈ encode cs) : Char.ofNat b.toNat ∈ cs := by
  obtain ⟨as, bs, happ⟩ := List.append_of_mem hb
  obtain ⟨ds, es, -, rfl⟩ := decode?_append_ascii h (decode?_eq_some_iff.2 happ)
  simp

end PointSum.Text
