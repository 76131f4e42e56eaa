import Mathlib.Data.List.Basic
import Mathlib.Data.List.TakeWhile
import PointSum.CommandLine.Request
import PointSum.Proofs.Text.Utf8

/-!
# What a command line asks for

* `AsksHelp w` : the word asks for the help text of `add`; `IsCluster w` : it is a hyphen and several letters `h`;
* `addMeaning_cases` : a word behind `add` is the first `--`, a point, or stops the program for one of four reasons;
* `readAdd_eq_ok_iff` : the words behind `add` are the two points, but for the first `--`;
* `read_eq_ok_iff`, `read_add_iff` : the command lines that ask for an addition;
* `read_pair_of_not_mem` : two points without the letter `h` that are not `--` are taken as they stand.
-/

namespace PointSum.CommandLine

set_option autoImplicit false

open Text (Bytes)

/-- The word `--`. -/
def escapeWord : Bytes := bytesOf "--"

/-- The word asks for the help text of `add`. -/
def AsksHelp (w : Bytes) : Prop :=
  w = bytesOf "-h" ∨ w = bytesOf "--help" ∨ bytesOf "--help=" <+: w

/-- The word is a hyphen with two or more letters `h` behind it. -/
def IsCluster (w : Bytes) : Prop := ∃ k, w = hyphen :: List.replicate (k + 2) 0x68

variable {w rest : Bytes} {ws taken : List Bytes} {r : Request} {b : UInt8}

/-! ## Texts -/

theorem decode?_bytesOf (s : String) : Text.decode? (bytesOf s) = some s.toList :=
  Text.decode?_encode _

theorem bytesOf_injective : Function.Injective bytesOf := by
  intro s t h
  exact String.toList_inj.1 (Text.encode_injective h)

/-! ## The form of a word -/

theorem ofWord_escapeWord : Shape.ofWord escapeWord = .escape := by decide

theorem ofWord_long (h : rest ≠ []) : Shape.ofWord (hyphen :: hyphen :: rest) = .ofLong rest := by
  simp [Shape.ofWord, h]

theorem ofWord_short (h : b ≠ hyphen) : Shape.ofWord (hyphen :: b :: rest) = .short (b :: rest) := by
  simp [Shape.ofWord, h]

theorem ofWord_plain (h : ∀ b rest, w ≠ hyphen :: b :: rest) : Shape.ofWord w = .plain := by
  unfold Shape.ofWord
  split
  · next a b rest =>
    rw [if_pos]
    rintro rfl
    exact h b rest rfl
  · rfl

/-- A word that asks for help has something behind a hyphen. -/
theorem AsksHelp.exists_cons (h : AsksHelp w) : ∃ b rest, w = hyphen :: b :: rest := by
  rcases h with rfl | rfl | ⟨v, rfl⟩
  · exact ⟨_, _, rfl⟩
  · exact ⟨_, _, rfl⟩
  · exact ⟨_, _, rfl⟩

theorem asksHelp_short_iff (h : b ≠ hyphen) : AsksHelp (hyphen :: b :: rest) ↔ b :: rest = [0x68] := by
  constructor
  · rintro (h' | h' | ⟨v, h'⟩)
    · exact (List.cons.inj h').2
    · exact absurd (List.cons.inj (List.cons.inj h').2).1 h
    · exact absurd (List.cons.inj (List.cons.inj h').2).1.symm h
  · intro h'
    rw [h']
    exact .inl rfl

theorem IsCluster.getElem?_one (h : IsCluster w) : w[1]? = some 0x68 := by
  obtain ⟨k, rfl⟩ := h
  rfl

/-- Behind the name of a word there is nothing, or a value. -/
theorem name_cases (rest : Bytes) : rest = rest.takeWhile (· ≠ equalsSign) ∨
    ∃ v, rest = rest.takeWhile (· ≠ equalsSign) ++ equalsSign :: v := by
  have happ := List.takeWhile_append_dropWhile (p := (· ≠ equalsSign)) (l := rest)
  cases hdrop : rest.dropWhile (· ≠ equalsSign) with
  | nil =>
    rw [hdrop, List.append_nil] at happ
    exact .inl happ.symm
  | cons a v =>
    have ha := List.head?_dropWhile_not (· ≠ equalsSign) rest
    rw [hdrop] at ha happ
    obtain rfl : a = equalsSign := by simpa using ha
    exact .inr ⟨v, happ.symm⟩

theorem takeWhile_eq_iff {name : Bytes} (hname : equalsSign ∉ name) :
    rest.takeWhile (· ≠ equalsSign) = name ↔ rest = name ∨ name ++ [equalsSign] <+: rest := by
  constructor
  · intro h
    rcases name_cases rest with h' | ⟨v, h'⟩
    · exact .inl (h'.trans h)
    · rw [h] at h'
      exact .inr ⟨v, by rw [h', List.append_assoc, List.singleton_append]⟩
  · have hall : ∀ a ∈ name, decide (a ≠ equalsSign) = true := by
      intro a ha
      exact decide_eq_true fun h => hname (h ▸ ha)
    rintro (rfl | ⟨v, rfl⟩)
    · exact List.takeWhile_eq_self_iff.2 hall
    · rw [List.append_assoc, List.takeWhile_append_of_pos hall]
      simp

theorem asksHelp_long_iff :
    AsksHelp (hyphen :: hyphen :: rest) ↔ rest.takeWhile (· ≠ equalsSign) = bytesOf Flag.help.name := by
  rw [takeWhile_eq_iff (by decide)]
  have hhelp : bytesOf "--help" = hyphen :: hyphen :: bytesOf Flag.help.name := by decide
  have hvalue : bytesOf "--help=" = hyphen :: hyphen :: (bytesOf Flag.help.name ++ [equalsSign]) := by decide
  have hletter : ¬ hyphen :: hyphen :: rest = bytesOf "-h" := by
    intro h
    exact absurd (List.cons.inj (List.cons.inj h).2).1 (by decide)
  rw [AsksHelp, hhelp, hvalue]
  simp [hletter]

/-! ## The meaning of a word -/

theorem addMeaning_escapeWord (taken : List Bytes) : addMeaning taken escapeWord = .escape := by
  rw [addMeaning, ofWord_escapeWord]

theorem addMeaning_plain (taken : List Bytes) (h : ∀ b rest, w ≠ hyphen :: b :: rest) :
    ¬ AsksHelp w ∧ addMeaning taken w = .operand := by
  constructor
  · intro hhelp
    obtain ⟨b, rest, hw⟩ := hhelp.exists_cons
    exact h b rest hw
  · rw [addMeaning, ofWord_plain h]

/-- The letters that are flags of `add`. -/
theorem any_add_flags (b : UInt8) :
    (Scope.add.flags.any fun f => bytesOf (.singleton f.letter) = [b]) = (b == 0x68) := by
  have hletter : bytesOf (.singleton Flag.help.letter) = [0x68] := by decide
  simp only [Scope.flags, List.any_cons, List.any_nil, Bool.or_false, hletter]
  rw [Bool.eq_iff_iff, decide_eq_true_eq, beq_iff_eq, List.cons.injEq]
  simp [eq_comm]

/-- A word with one hyphen is a point, unless it is made of flags or two points have been read. -/
theorem addMeaning_short (taken : List Bytes) (h : b ≠ hyphen) :
    (¬ AsksHelp (hyphen :: b :: rest) ∧ addMeaning taken (hyphen :: b :: rest) = .operand) ∨
      (∃ s, addMeaning taken (hyphen :: b :: rest) = .stop s) ∧
        (AsksHelp (hyphen :: b :: rest) ∨ IsCluster (hyphen :: b :: rest) ∨ 2 ≤ taken.length) := by
  rw [addMeaning, ofWord_short h, asksHelp_short_iff h]
  simp only [any_add_flags]
  by_cases hoperand : taken.length < 2 ∧ ¬ (b :: rest).all (· == 0x68)
  · left
    refine ⟨?_, if_pos hoperand⟩
    intro hrest
    rw [hrest] at hoperand
    exact hoperand.2 (by decide)
  · right
    refine ⟨⟨_, if_neg hoperand⟩, ?_⟩
    by_cases htaken : taken.length < 2
    · have hall : ∀ a ∈ b :: rest, a = 0x68 := by
        simpa [htaken] using hoperand
      have hrest := List.eq_replicate_of_mem hall
      cases rest with
      | nil => exact .inl hrest
      | cons a rest => exact .inr (.inl ⟨rest.length, congrArg _ hrest⟩)
    · exact .inr (.inr (by omega))

theorem add_flag?_eq_some_iff {name : Bytes} {f : Flag} :
    Scope.add.flag? name = some f ↔ f = .help ∧ bytesOf Flag.help.name = name := by
  simp [Scope.flag?, Scope.flags, and_comm, eq_comm]

theorem add_flag?_eq_none_iff {name : Bytes} :
    Scope.add.flag? name = none ↔ bytesOf Flag.help.name ≠ name := by
  simp [Scope.flag?, Scope.flags]

/-- The name of a word that is well-formed text is well-formed text. -/
theorem exists_decode?_name {cs : List Char} (h : Text.decode? (hyphen :: hyphen :: rest) = some cs) :
    ∃ ds, Text.decode? (rest.takeWhile (· ≠ equalsSign)) = some ds := by
  rw [Text.decode?_cons_ascii (by decide), Text.decode?_cons_ascii (by decide)] at h
  obtain ⟨es, h, -⟩ := Option.map_eq_some_iff.1 h
  obtain ⟨ds, hds, -⟩ := Option.map_eq_some_iff.1 h
  rcases name_cases rest with h' | ⟨v, h'⟩
  · exact ⟨ds, h' ▸ hds⟩
  · rw [h'] at hds
    obtain ⟨es, -, hes, -⟩ := Text.decode?_append_ascii (by decide) hds
    exact ⟨es, hes⟩

/-- A word with two hyphens is a point, unless it asks for help, two points have been read, or its name is not
well-formed text. -/
theorem addMeaning_long (taken : List Bytes) (h : rest ≠ []) :
    (¬ AsksHelp (hyphen :: hyphen :: rest) ∧ addMeaning taken (hyphen :: hyphen :: rest) = .operand) ∨
      (∃ s, addMeaning taken (hyphen :: hyphen :: rest) = .stop s) ∧
        (AsksHelp (hyphen :: hyphen :: rest) ∨ 2 ≤ taken.length ∨
          Text.decode? (hyphen :: hyphen :: rest) = none) := by
  have hdecode := @exists_decode?_name rest
  rw [addMeaning, ofWord_long h, asksHelp_long_iff]
  simp only [Shape.ofLong]
  generalize rest.takeWhile (· ≠ equalsSign) = name at hdecode ⊢
  by_cases hbroken : (Text.decode? name).isNone
  · right
    refine ⟨⟨_, if_pos hbroken⟩, .inr (.inr ?_)⟩
    rw [Option.isNone_iff_eq_none] at hbroken
    rw [Option.eq_none_iff_forall_ne_some]
    intro cs hcs
    obtain ⟨ds, hds⟩ := hdecode hcs
    rw [hds] at hbroken
    cases hbroken
  rw [if_neg hbroken]
  cases hflag : Scope.add.flag? name with
  | some f =>
    right
    refine ⟨?_, .inl (add_flag?_eq_some_iff.1 hflag).2.symm⟩
    split
    · exact ⟨_, rfl⟩
    · exact ⟨_, rfl⟩
    · next hnone => cases hnone
  | none =>
    have hname := add_flag?_eq_none_iff.1 hflag
    by_cases htaken : taken.length < 2
    · exact .inl ⟨fun h => hname h.symm, if_pos htaken⟩
    · exact .inr ⟨⟨_, if_neg htaken⟩, .inr (.inl (by omega))⟩

/-- What a word means behind `add`: the escape, a point, or a stop, and why. -/
theorem addMeaning_cases (taken : List Bytes) (w : Bytes) :
    (w = escapeWord ∧ addMeaning taken w = .escape) ∨
      w ≠ escapeWord ∧
        ((¬ AsksHelp w ∧ addMeaning taken w = .operand) ∨
          (∃ s, addMeaning taken w = .stop s) ∧
            (AsksHelp w ∨ IsCluster w ∨ 2 ≤ taken.length ∨ Text.decode? w = none)) := by
  by_cases hescape : w = escapeWord
  · exact .inl ⟨hescape, hescape ▸ addMeaning_escapeWord taken⟩
  refine .inr ⟨hescape, ?_⟩
  by_cases hw : ∃ b rest, w = hyphen :: b :: rest
  · obtain ⟨b, rest, rfl⟩ := hw
    by_cases hb : b = hyphen
    · subst hb
      have hrest : rest ≠ [] := by
        rintro rfl
        exact hescape (by decide)
      refine (addMeaning_long taken hrest).imp id fun ⟨hstop, hcause⟩ => ⟨hstop, ?_⟩
      exact hcause.imp id fun h => .inr h
    · refine (addMeaning_short taken hb).imp id fun ⟨hstop, hcause⟩ => ⟨hstop, ?_⟩
      exact hcause.imp id fun h => h.imp id .inl
  · exact .inl (addMeaning_plain taken fun b rest h => hw ⟨b, rest, h⟩)

/-! ## Reading points -/

theorem endsBroken_concat (taken : List Bytes) (w : Bytes) :
    endsBroken (taken ++ [w]) = (Text.decode? w).isNone := by
  simp [endsBroken]

theorem endsBroken_concat_bytesOf (taken : List Bytes) (t : String) :
    endsBroken (taken ++ [bytesOf t]) = false := by
  rw [endsBroken_concat, decode?_bytesOf]
  rfl

theorem request_eq_ok_iff (htaken : taken.length ≤ 2) :
    request taken = .ok r ↔ taken = [bytesOf r.lhs, bytesOf r.rhs] := by
  constructor
  · intro h
    unfold request at h
    by_cases hbroken : endsBroken taken
    · rw [if_pos hbroken] at h
      cases h
    rw [if_neg hbroken] at h
    match taken, htaken, h with
    | [a, b], _, h =>
      simp only at h
      split at h
      · next l r ha hb =>
        obtain rfl := Except.ok.inj h
        rw [bytesOf, bytesOf, String.toList_ofList, String.toList_ofList, Text.decode?_eq_some_iff.1 ha,
          Text.decode?_eq_some_iff.1 hb]
      · cases h
  · rintro rfl
    have hbroken : endsBroken [bytesOf r.lhs, bytesOf r.rhs] = false := endsBroken_concat_bytesOf [_] _
    simp [request, hbroken, decode?_bytesOf]

theorem takeOperand_eq_ok_iff {taken' : List Bytes} :
    takeOperand taken w = .ok taken' ↔ taken.length < 2 ∧ endsBroken taken = false ∧ taken' = taken ++ [w] := by
  unfold takeOperand
  split_ifs with hlen hbroken
  · simp [hbroken]
  · simp [hlen, hbroken, eq_comm]
  · simp [hlen]

/-- A word that stands among two points is taken. -/
theorem takeOperand_of_eq {l r : String} (h : taken ++ w :: ws = [bytesOf l, bytesOf r]) :
    takeOperand taken w = .ok (taken ++ [w]) := by
  rw [takeOperand_eq_ok_iff]
  cases taken with
  | nil => exact ⟨by decide, rfl, rfl⟩
  | cons a taken =>
    obtain ⟨rfl, h⟩ := List.cons.inj h
    cases taken with
    | nil => exact ⟨by simp, endsBroken_concat_bytesOf [] l, rfl⟩
    | cons b taken => simp at h

/-- Behind `--` every word is a point. -/
theorem readEscaped_eq_ok_iff (htaken : taken.length ≤ 2) :
    readEscaped taken ws = .ok r ↔ taken ++ ws = [bytesOf r.lhs, bytesOf r.rhs] := by
  induction ws generalizing taken with
  | nil => rw [readEscaped, request_eq_ok_iff htaken, List.append_nil]
  | cons w ws ih =>
    rw [readEscaped]
    cases htake : takeOperand taken w with
    | ok taken' =>
      obtain ⟨hlen, -, rfl⟩ := takeOperand_eq_ok_iff.1 htake
      simp only
      rw [ih (by simp; omega), List.append_assoc, List.singleton_append]
    | error s =>
      simp only [reduceCtorEq, false_iff]
      intro h
      rw [takeOperand_of_eq h] at htake
      cases htake

/-- The words behind `add` are the two points, but for the first `--`, and none in front of it asks for help. -/
theorem readAdd_eq_ok_iff (htaken : taken.length ≤ 2) (hws : ∀ w ∈ ws, ¬ IsCluster w) :
    readAdd taken ws = .ok r ↔
      (∀ w ∈ ws.takeWhile (· ≠ escapeWord), ¬ AsksHelp w) ∧
        taken ++ ws.erase escapeWord = [bytesOf r.lhs, bytesOf r.rhs] := by
  -- Each word moves from those ahead to those taken, and both together stay the two points.
  induction ws generalizing taken with
  | nil => simp [readAdd, request_eq_ok_iff htaken]
  | cons w ws ih =>
    have hcluster := hws w List.mem_cons_self
    have ih := fun taken h => @ih taken h fun v hv => hws v (List.mem_cons_of_mem _ hv)
    rw [readAdd]
    rcases addMeaning_cases taken w with ⟨rfl, hmeaning⟩ | ⟨hescape, ⟨hhelp, hmeaning⟩ | ⟨⟨s, hmeaning⟩, hcause⟩⟩
    · simp [hmeaning, readEscaped_eq_ok_iff htaken]
    · simp only [hmeaning]
      rw [List.erase_cons_tail (by simpa using hescape), List.takeWhile_cons_of_pos (by simpa using hescape),
        List.forall_mem_cons]
      cases htake : takeOperand taken w with
      | ok taken' =>
        obtain ⟨hlen, -, rfl⟩ := takeOperand_eq_ok_iff.1 htake
        simp only
        rw [ih _ (by simp; omega), List.append_assoc, List.singleton_append]
        simp [hhelp]
      | error s =>
        simp only [reduceCtorEq, false_iff]
        rintro ⟨-, h⟩
        rw [takeOperand_of_eq h] at htake
        cases htake
    · simp only [hmeaning, reduceCtorEq, false_iff]
      rw [List.erase_cons_tail (by simpa using hescape), List.takeWhile_cons_of_pos (by simpa using hescape),
        List.forall_mem_cons]
      -- A word stops the program only if it cannot be one of two points, or asks for help.
      rintro ⟨⟨hhelp, -⟩, h⟩
      rcases hcause with h' | h' | h' | h'
      · exact hhelp h'
      · exact hcluster h'
      · have := congrArg List.length h
        simp at this
        omega
      · have hmem : w ∈ [bytesOf r.lhs, bytesOf r.rhs] := h ▸ by simp
        obtain ⟨t, rfl⟩ : ∃ t, w = bytesOf t := by
          rcases List.mem_pair.1 hmem with rfl | rfl
          · exact ⟨_, rfl⟩
          · exact ⟨_, rfl⟩
        rw [decode?_bytesOf] at h'
        cases h'

/-! ## Command lines -/

theorem command?_eq_add_iff : (Scope.program.command? w).map Prod.snd = some .add ↔ w = bytesOf "add" := by
  by_cases hadd : w = bytesOf "add"
  · subst hadd
    decide
  · have hne : ¬ bytesOf "add" = w := fun h => hadd h.symm
    by_cases hhelp : bytesOf "help" = w <;> simp [Scope.command?, Scope.commands, hne, hhelp, hadd]

theorem read_cons_eq_ok_iff : read (w :: ws) = .ok r ↔ w = bytesOf "add" ∧ readAdd [] ws = .ok r := by
  rw [← command?_eq_add_iff, read]
  split
  · next h => simp [h]
  · next scope hscope h =>
    simp only [h, reduceCtorEq, Option.some.injEq, false_iff]
    exact fun h' => hscope h'.1
  · next h => simp [h]

theorem read_eq_ok_iff {args : List Bytes} (hargs : ∀ w ∈ args, ¬ IsCluster w) :
    read args = .ok r ↔
      ∃ rest, args = bytesOf "add" :: rest ∧ (∀ w ∈ rest.takeWhile (· ≠ escapeWord), ¬ AsksHelp w) ∧
        rest.erase escapeWord = [bytesOf r.lhs, bytesOf r.rhs] := by
  cases args with
  | nil => simp [read]
  | cons w ws =>
    have hws : ∀ v ∈ ws, ¬ IsCluster v := fun v hv => hargs v (List.mem_cons_of_mem _ hv)
    rw [read_cons_eq_ok_iff, readAdd_eq_ok_iff (by simp) hws, List.nil_append]
    constructor
    · rintro ⟨rfl, h⟩
      exact ⟨ws, rfl, h⟩
    · rintro ⟨rest, hrest, h⟩
      obtain ⟨rfl, rfl⟩ := List.cons.inj hrest
      exact ⟨rfl, h⟩

/-- The word is well-formed text. -/
def IsText (w : Bytes) : Prop := ∃ t, bytesOf t = w

/-- A command line without clusters asks for an addition if it is the word `add` and two words that are well-formed
text, besides the first `--`, and none of the words in front of that asks for help. The two points are then these words
as they were written. -/
theorem read_add_iff (args : List Bytes) (hargs : ∀ w ∈ args, ¬ IsCluster w) :
    ((∃ r, read args = .ok r) ↔
      ∃ rest l r, args = bytesOf "add" :: rest ∧ (∀ w ∈ rest.takeWhile (· ≠ escapeWord), ¬ AsksHelp w) ∧
        rest.erase escapeWord = [l, r] ∧ IsText l ∧ IsText r) ∧
    ∀ request rest, read args = .ok request → args = bytesOf "add" :: rest →
      rest.erase escapeWord = [bytesOf request.lhs, bytesOf request.rhs] := by
  simp only [read_eq_ok_iff hargs]
  refine ⟨⟨?_, ?_⟩, ?_⟩
  · rintro ⟨r, rest, hargs, hhelp, hrest⟩
    exact ⟨rest, _, _, hargs, hhelp, hrest, ⟨_, rfl⟩, ⟨_, rfl⟩⟩
  · rintro ⟨rest, -, -, hargs, hhelp, hrest, ⟨l, rfl⟩, ⟨r, rfl⟩⟩
    exact ⟨⟨l, r⟩, rest, hargs, hhelp, hrest⟩
  · rintro r rest ⟨rest', h, -, hrest⟩ h'
    obtain rfl := (List.cons.inj (h.symm.trans h')).2
    exact hrest

theorem read_add_hyphens :
    (∀ w ∈ ["add", "-V", "--", "--help"].map bytesOf, ¬ IsCluster w) ∧
      ((∃ r, read (["add", "-V", "--", "--help"].map bytesOf) = .ok r) ↔
        ∃ rest l r, ["add", "-V", "--", "--help"].map bytesOf = bytesOf "add" :: rest ∧
          (∀ w ∈ rest.takeWhile (· ≠ escapeWord), ¬ AsksHelp w) ∧ rest.erase escapeWord = [l, r] ∧ IsText l ∧
            IsText r) ∧
      read (["add", "-V", "--", "--help"].map bytesOf) = .ok ⟨"-V", "--help"⟩ ∧
      (["-V", "--", "--help"].map bytesOf).erase escapeWord = [bytesOf "-V", bytesOf "--help"] := by
  have hcluster : ∀ w ∈ ["add", "-V", "--", "--help"].map bytesOf, ¬ IsCluster w := by
    have hsecond : ∀ w ∈ ["add", "-V", "--", "--help"].map bytesOf, w[1]? ≠ some 0x68 := by decide
    exact fun w hw h => hsecond w hw h.getElem?_one
  have hread : read (["add", "-V", "--", "--help"].map bytesOf) = .ok ⟨"-V", "--help"⟩ := by decide +kernel
  obtain ⟨hiff, hwords⟩ := read_add_iff _ hcluster
  exact ⟨hcluster, hiff, hread, hwords _ _ hread rfl⟩

/-! ## Words without the letter `h` -/

theorem AsksHelp.mem (h : AsksHelp w) : 0x68 ∈ w := by
  rcases h with rfl | rfl | ⟨v, rfl⟩
  · decide
  · decide
  · exact List.mem_append_left _ (by decide)

theorem IsCluster.mem (h : IsCluster w) : 0x68 ∈ w :=
  List.mem_of_getElem? h.getElem?_one

theorem mem_of_mem_bytesOf {t : String} (h : 0x68 ∈ bytesOf t) : 'h' ∈ t.toList :=
  Text.mem_of_mem_encode (b := 0x68) (by decide) h

/-- Two words without the letter that flags are made of are points, whatever they begin with. -/
theorem read_pair_of_not_mem {l r : String} (hl : 'h' ∉ l.toList) (hr : 'h' ∉ r.toList) (hl' : l ≠ "--")
    (hr' : r ≠ "--") : read [bytesOf "add", bytesOf l, bytesOf r] = .ok ⟨l, r⟩ := by
  have hmem : ∀ w ∈ [bytesOf "add", bytesOf l, bytesOf r], 0x68 ∉ w := by
    simp only [List.forall_mem_cons]
    refine ⟨by decide, fun h => hl (mem_of_mem_bytesOf h), fun h => hr (mem_of_mem_bytesOf h), ?_⟩
    simp
  rw [read_eq_ok_iff fun w hw hcluster => hmem w hw hcluster.mem]
  refine ⟨_, rfl, ?_, ?_⟩
  · intro w hw hhelp
    have hw := List.mem_cons_of_mem (bytesOf "add") ((List.takeWhile_prefix _).subset hw)
    exact hmem w hw hhelp.mem
  · rw [List.erase_of_not_mem]
    simp only [escapeWord, List.mem_pair, bytesOf_injective.eq_iff, not_or]
    exact ⟨Ne.symm hl', Ne.symm hr'⟩

end PointSum.CommandLine
