import PointSum.Proofs.CommandLine.Request
import PointSum.Proofs.Point.Grammar
import PointSum.Proofs.Point.Total
import PointSum.Proofs.Run.Status

/-!
# Chains of runs

A list of points can be added by runs of the program: each run adds one more of them to what the run before it
printed, until one fails.

* `chain s words` : the outcomes of these runs in the surroundings `s`;
* `Chained p qs os` : the outcomes `os` are those of adding the points `qs` one after the other to `p`;
  `chained_chainFrom` : runs that read words for these points leave such outcomes behind;
* `Chained.forall_status_iff`, `Chained.getLast?_output`, `Chained.first_overflow` : so the runs all succeed if the
  library adds the points without a trap, with the same sum, and else stop where the library traps;
* `chain_eq_total` : the chain is the sum of the list.
-/

namespace PointSum

set_option autoImplicit false

open Number

/-- The surroundings with a command line that adds two words. -/
def Surroundings.adding (s : Surroundings) (lhs rhs : String) : Surroundings :=
  { s with arguments := [CommandLine.bytesOf "add", CommandLine.bytesOf lhs, CommandLine.bytesOf rhs] }

/-- The text of an output without the newline at its end. -/
def lineOf (output : String) : String :=
  .ofList output.toList.dropLast

/-- The outcomes of the runs that add words one after the other to a word, up to the first that fails. -/
def chainFrom (s : Surroundings) : String → List String → List Outcome
  | _, [] => []
  | word, w :: ws =>
    let o := run (s.adding word w)
    o :: if o.status = 0 then chainFrom s (lineOf o.output) ws else []

/-- The outcomes of the runs that add the words of a list. -/
def chain (s : Surroundings) : List String → List Outcome
  | [] => []
  | w :: ws => chainFrom s w ws

variable {s : Surroundings} {l r w : String} {ws : List String} {p q sum : Point (Word .int64)}
  {qs : List (Point (Word .int64))} {o : Outcome} {os : List Outcome}

theorem lineOf_append_newline (t : String) : lineOf (t ++ "\n") = t := by
  simp [lineOf]

/-! ## One run -/

theorem h_not_mem_of_read (h : Point.read (Word .int64) w = .ok p) : 'h' ∉ w.toList := by
  obtain ⟨x, y, hxy, hx, hy⟩ := read_word_eq_ok_iff.1 h
  intro hw
  rcases hxy.mem.2 _ hw with hblank | hmark | hc | hc
  · exact absurd hblank (by decide)
  · exact absurd hmark (by decide)
  · exact absurd (hx.isDigit_or_sign hc) (by decide)
  · exact absurd (hy.isDigit_or_sign hc) (by decide)

theorem ne_hyphens_of_read (h : Point.read (Word .int64) w = .ok p) : w ≠ "--" := by
  obtain ⟨x, y, hxy, -, -⟩ := read_word_eq_ok_iff.1 h
  intro hw
  subst hw
  exact absurd hxy.mem.1 (by decide)

/-- A point is no flag, whatever sign it begins with. -/
theorem read_adding (hl : Point.read (Word .int64) l = .ok p) (hr : Point.read (Word .int64) r = .ok q) :
    CommandLine.read (s.adding l r).arguments = .ok ⟨l, r⟩ :=
  CommandLine.read_pair_of_not_mem (h_not_mem_of_read hl) (h_not_mem_of_read hr) (ne_hyphens_of_read hl)
    (ne_hyphens_of_read hr)

/-- The outcome is that of adding two points: it shows their sum, or the overflow in its place. -/
def Outcome.Shows (o : Outcome) : Except Overflow (Point (Word .int64)) → Prop
  | .ok sum => o.status = 0 ∧ o.output = sum.text ++ "\n"
  | .error e => o.status = 1 ∧ o.output = "" ∧ o.errors = "Error: " ++ e.message ++ "\n"

theorem run_adding (hstarts : Starts s) (hmode : (chooseMode s).1 = .int)
    (hl : Point.read (Word .int64) l = .ok p) (hr : Point.read (Word .int64) r = .ok q) :
    (run (s.adding l r)).Shows (p.add? q) := by
  have hread := read_adding (s := s) hl hr
  have hstarts' : Starts (s.adding l r) := hstarts
  have hmode' : (chooseMode (s.adding l r)).1 = .int := hmode
  cases hsum : p.add? q with
  | ok sum =>
    have htext : sumText .int l r = .ok sum.text := sumText_int_eq_ok_iff.2 ⟨p, q, sum, hl, hr, hsum, rfl⟩
    obtain ⟨log, hrun⟩ := run_of_sum hstarts' hread (hmode' ▸ htext)
    rw [hrun]
    exact ⟨rfl, rfl⟩
  | error e =>
    have hfault : sumText .int l r = .error (.overflow e) :=
      sumText_int_eq_error_iff.2 (.inr ⟨p, q, e, hl, hr, hsum, rfl⟩)
    obtain ⟨log, hrun⟩ := run_of_fault hstarts' hread (hmode' ▸ hfault)
    rw [hrun]
    exact ⟨rfl, rfl, rfl⟩

/-! ## Chains -/

/-- The outcomes are those of adding points one after the other to a point, up to the first overflow. -/
inductive Chained : Point (Word .int64) → List (Point (Word .int64)) → List Outcome → Prop where
  | done (p : Point (Word .int64)) : Chained p [] []
  | more {p q sum : Point (Word .int64)} {qs : List (Point (Word .int64))} {o : Outcome} {os : List Outcome} :
    p.add? q = .ok sum → o.Shows (.ok sum) → Chained sum qs os → Chained p (q :: qs) (o :: os)
  | last {p q : Point (Word .int64)} {e : Overflow} {o : Outcome} (qs : List (Point (Word .int64))) :
    p.add? q = .error e → o.Shows (.error e) → Chained p (q :: qs) [o]

/-- What a run prints is read by the next one as the sum it stands for. -/
theorem chained_chainFrom (hstarts : Starts s) (hmode : (chooseMode s).1 = .int)
    (hw : Point.read (Word .int64) w = .ok p)
    (hws : List.Forall₂ (fun w q => Point.read (Word .int64) w = .ok q) ws qs) :
    Chained p qs (chainFrom s w ws) := by
  -- The word is general: the next run starts from what this one printed, which is read as the sum so far.
  induction hws generalizing w p with
  | nil => exact .done p
  | cons hv hws ih =>
    have hrun := run_adding hstarts hmode hw hv
    rw [chainFrom]
    cases hsum : p.add? _ with
    | ok sum =>
      rw [hsum] at hrun
      rw [if_pos hrun.1, hrun.2, lineOf_append_newline]
      exact .more hsum hrun (ih (read_text_word sum))
    | error e =>
      rw [hsum] at hrun
      rw [if_neg (by rw [hrun.1]; decide)]
      exact .last _ hsum hrun

/-- The library adds on where a run succeeds, and traps where one fails. -/
theorem foldlM_add_cons (hsum : p.add? q = .ok sum) : (q :: qs).foldlM Point.add p = qs.foldlM Point.add sum := by
  rw [List.foldlM_cons, Point.add_eq_ok_iff_add?.2 hsum]
  rfl

theorem foldlM_add_cons_ne {e : Overflow} (herror : p.add? q = .error e) :
    ¬ ∃ sum, (q :: qs).foldlM Point.add p = .ok sum := by
  rw [List.foldlM_cons]
  cases hadd : p.add q with
  | ok r =>
    rw [Point.add_eq_ok_iff_add?.1 hadd] at herror
    cases herror
  | error t =>
    rintro ⟨sum, hsum⟩
    cases hsum

theorem Chained.forall_status_iff (h : Chained p qs os) :
    (∀ o ∈ os, o.status = 0) ↔ ∃ sum, qs.foldlM Point.add p = .ok sum := by
  induction h with
  | done p => exact iff_of_true (by simp) ⟨p, rfl⟩
  | more hsum ho _ ih =>
    rw [foldlM_add_cons hsum, ← ih, List.forall_mem_cons]
    exact and_iff_right ho.1
  | last qs herror ho =>
    refine iff_of_false ?_ (foldlM_add_cons_ne herror)
    intro hall
    have hstatus := hall _ List.mem_cons_self
    rw [ho.1] at hstatus
    cases hstatus

/-- Where the library adds all points there is a run for each of them, and the last one prints their sum. -/
theorem Chained.getLast?_output (h : Chained p qs os) (hsum : qs.foldlM Point.add p = .ok sum) :
    os.length = qs.length ∧ ∀ o ∈ os.getLast?, o.output = sum.text ++ "\n" := by
  induction h with
  | done p => simp
  | @more p q r qs o os hr ho _ ih =>
    rw [foldlM_add_cons hr] at hsum
    obtain ⟨hlength, hlast⟩ := ih hsum
    refine ⟨by rw [List.length_cons, List.length_cons, hlength], ?_⟩
    cases os with
    | nil =>
      obtain rfl : qs = [] := List.length_eq_zero_iff.1 hlength.symm
      obtain rfl : r = sum := Except.ok.inj hsum
      intro o' ho'
      obtain rfl : o = o' := Option.some.inj ho'
      exact ho.2
    | cons o' os =>
      rw [List.getLast?_cons_cons]
      exact hlast
  | last qs herror ho => exact absurd ⟨sum, hsum⟩ (foldlM_add_cons_ne herror)

/-- A run that fails is the one whose point has no sum with those before it. -/
theorem Chained.exists_overflow (h : Chained p qs os) {k : Nat} (hk : os[k]? = some o) (hstatus : o.status ≠ 0) :
    ∃ r q e, (qs.take k).foldlM Point.add p = .ok r ∧ qs[k]? = some q ∧ r.add? q = .error e ∧ o.Shows (.error e) := by
  induction h generalizing k with
  | done p => simp at hk
  | more hsum ho _ ih =>
    cases k with
    | zero =>
      obtain rfl := Option.some.inj hk
      exact absurd ho.1 hstatus
    | succ k =>
      rw [List.take_succ_cons, foldlM_add_cons hsum, List.getElem?_cons_succ]
      exact ih hk
  | @last p q e o' qs herror ho =>
    cases k with
    | zero =>
      obtain rfl := Option.some.inj hk
      exact ⟨p, q, e, rfl, rfl, herror, ho⟩
    | succ k => simp at hk

/-- A run that fails is the first one at which the format does not hold the sum on an axis. -/
theorem Chained.first_overflow (h : Chained p qs os) {k : Nat} (hk : os[k]? = some o) (hstatus : o.status ≠ 0) :
    (∀ i ≤ k, ∀ axis, WordFormat.int64.Holds ((p.coordinate axis).toInt + Point.sumOn axis (qs.take i))) ∧
      ∃ axis q, qs[k]? = some q ∧
        ¬ WordFormat.int64.Holds ((p.coordinate axis).toInt + Point.sumOn axis (qs.take (k + 1))) ∧
        (axis = .y → WordFormat.int64.Holds ((p.coordinate .x).toInt + Point.sumOn .x (qs.take (k + 1)))) ∧
        o.Shows (.error ⟨axis, toString ((p.coordinate axis).toInt + Point.sumOn axis (qs.take k)),
          toString (q.coordinate axis).toInt⟩) := by
  -- Before the run that fails the library has come as far as `r`, so `r` is the sum of integers so far.
  obtain ⟨r, q, e, hr, hq, herror, ho⟩ := h.exists_overflow hk hstatus
  obtain ⟨hheld, hr⟩ := Point.foldlM_add_eq_ok_iff.1 hr
  obtain ⟨axis, hout, hx, rfl⟩ := Point.add?_eq_error_iff_exists.1 herror
  have hnext : ∀ axis, (p.coordinate axis).toInt + Point.sumOn axis (qs.take (k + 1)) =
      (r.coordinate axis).toInt + (q.coordinate axis).toInt := by
    intro axis
    rw [Point.sumOn_take_succ hq, hr, Int.add_assoc]
  constructor
  · intro i hi axis
    have := hheld i axis
    rwa [List.take_take, Nat.min_eq_left hi] at this
  · rw [hr] at ho
    exact ⟨axis, q, hq, by rwa [hnext], by rwa [hnext], ho⟩

/-- Runs that start and add the points of a list one after the other all succeed if the library has a sum of the list,
and then the last one prints it. The first run that does not succeed is the one whose point leads out of range on an
axis, and tells so. The command line takes every point as it is written, those that were printed and those that were
not. -/
theorem chain_eq_total (s : Surroundings) (words : List String) (ps : List (Point (Word .int64)))
    (hstarts : Starts s) (hmode : (chooseMode s).1 = .int) (hlength : 2 ≤ words.length)
    (hread : List.Forall₂ (fun w p => Point.read (Word .int64) w = .ok p) words ps) :
    ((∀ o ∈ chain s words, o.status = 0) ↔ ∃ sum, Point.total ps = .ok sum) ∧
    (∀ sum, Point.total ps = .ok sum → (chain s words).length + 1 = words.length ∧
      ∃ o, (chain s words).getLast? = some o ∧ o.output = sum.text ++ "\n") ∧
    (∀ k o, (chain s words)[k]? = some o → o.status ≠ 0 →
      (∀ i ≤ k + 1, ∀ axis, Point.sumOn axis (ps.take i) ∈ Set.Icc (-2 ^ 63) (2 ^ 63 - 1)) ∧
      o.status = 1 ∧ o.output = "" ∧
      ∃ axis q, ps[k + 1]? = some q ∧ Point.sumOn axis (ps.take (k + 2)) ∉ Set.Icc (-2 ^ 63) (2 ^ 63 - 1) ∧
        (axis = .y → Point.sumOn .x (ps.take (k + 2)) ∈ Set.Icc (-2 ^ 63) (2 ^ 63 - 1)) ∧
        o.errors = "Error: " ++ (axis.name ++ " coordinate overflowed adding " ++
          toString (Point.sumOn axis (ps.take (k + 1))) ++ " and " ++ toString (q.coordinate axis).toInt) ++ "\n") ∧
    ∀ l r, (∃ p, Point.read (Word .int64) l = .ok p) → (∃ q, Point.read (Word .int64) r = .ok q) →
      CommandLine.read (s.adding l r).arguments = .ok ⟨l, r⟩ := by
  simp only [← holds_int64_iff]
  cases hread with
  | nil => simp at hlength
  | @cons w p ws qs hw hws =>
    have hchained : Chained p qs (chain s (w :: ws)) := chained_chainFrom hstarts hmode hw hws
    rw [Point.total_cons]
    refine ⟨hchained.forall_status_iff, ?_, ?_, ?_⟩
    · intro sum hsum
      obtain ⟨hcount, hlast⟩ := hchained.getLast?_output hsum
      rw [← hws.length_eq] at hcount
      refine ⟨by rw [hcount, List.length_cons], ?_⟩
      have hne : chain s (w :: ws) ≠ [] := by
        intro hnil
        rw [hnil] at hcount
        simp at hlength hcount
        omega
      exact ⟨_, List.getLast?_eq_some_getLast hne, hlast _ (List.getLast?_eq_some_getLast hne)⟩
    · intro k o hk hstatus
      obtain ⟨hheld, axis, q, hq, hout, hx, ho⟩ := hchained.first_overflow hk hstatus
      simp only [List.take_succ_cons, Point.sumOn_cons, List.getElem?_cons_succ]
      refine ⟨?_, ho.1, ho.2.1, axis, q, hq, hout, hx, ho.2.2⟩
      intro i hi axis
      cases i with
      | zero => simp
      | succ i =>
        rw [List.take_succ_cons, Point.sumOn_cons]
        exact hheld i (by omega) axis
    · rintro l r ⟨p, hl⟩ ⟨q, hr⟩
      exact read_adding hl hr

theorem chain_eq_total_three :
    Starts (.ofWords [] "int") ∧ (chooseMode (.ofWords [] "int")).1 = .int ∧
    (List.Forall₂ (fun w p => Point.read (Word .int64) w = .ok p) ["-1,+2", " (007, 0)", "4,-5"]
        [⟨⟨-1⟩, ⟨2⟩⟩, ⟨⟨7⟩, ⟨0⟩⟩, ⟨⟨4⟩, ⟨-5⟩⟩] ∧
      Point.total [⟨⟨-1⟩, ⟨2⟩⟩, ⟨⟨7⟩, ⟨0⟩⟩, ⟨⟨4⟩, ⟨-5⟩⟩] = .ok (⟨⟨10⟩, ⟨-3⟩⟩ : Point (Word .int64)) ∧
      ∃ o, (chain (.ofWords [] "int") ["-1,+2", " (007, 0)", "4,-5"]).getLast? = some o ∧
        o.output = Point.text (⟨⟨10⟩, ⟨-3⟩⟩ : Point (Word .int64)) ++ "\n") ∧
    (List.Forall₂ (fun w p => Point.read (Word .int64) w = .ok p) ["-1,0", "-1,-9223372036854775808", "0,-1"]
        [⟨⟨-1⟩, ⟨0⟩⟩, ⟨⟨-1⟩, ⟨-9223372036854775808⟩⟩, ⟨⟨0⟩, ⟨-1⟩⟩] ∧
      (chain (.ofWords [] "int") ["-1,0", "-1,-9223372036854775808", "0,-1"])[1]? =
        some ⟨1, "", "Error: y coordinate overflowed adding -9223372036854775808 and -1\n", []⟩ ∧
      ¬ ∃ sum, Point.total [⟨⟨-1⟩, ⟨0⟩⟩, ⟨⟨-1⟩, ⟨-9223372036854775808⟩⟩, ⟨⟨0⟩, ⟨-1⟩⟩] =
        .ok (sum : Point (Word .int64))) := by
  have hstarts : Starts (.ofWords [] "int") := starts_of_none rfl
  have hmode : (chooseMode (.ofWords [] "int")).1 = .int := by decide +kernel
  have hread : List.Forall₂ (fun w p => Point.read (Word .int64) w = .ok p) ["-1,+2", " (007, 0)", "4,-5"]
      [⟨⟨-1⟩, ⟨2⟩⟩, ⟨⟨7⟩, ⟨0⟩⟩, ⟨⟨4⟩, ⟨-5⟩⟩] :=
    .cons (by decide +kernel) (.cons (by decide +kernel) (.cons (by decide +kernel) .nil))
  have htotal : Point.total [⟨⟨-1⟩, ⟨2⟩⟩, ⟨⟨7⟩, ⟨0⟩⟩, ⟨⟨4⟩, ⟨-5⟩⟩] = .ok (⟨⟨10⟩, ⟨-3⟩⟩ : Point (Word .int64)) := by
    decide +kernel
  have hread' : List.Forall₂ (fun w p => Point.read (Word .int64) w = .ok p)
      ["-1,0", "-1,-9223372036854775808", "0,-1"] [⟨⟨-1⟩, ⟨0⟩⟩, ⟨⟨-1⟩, ⟨-9223372036854775808⟩⟩, ⟨⟨0⟩, ⟨-1⟩⟩] :=
    .cons (by decide +kernel) (.cons (by decide +kernel) (.cons (by decide +kernel) .nil))
  have hfails : (chain (.ofWords [] "int") ["-1,0", "-1,-9223372036854775808", "0,-1"])[1]? =
      some ⟨1, "", "Error: y coordinate overflowed adding -9223372036854775808 and -1\n", []⟩ := by decide +kernel
  obtain ⟨-, hlast, -, -⟩ := chain_eq_total (.ofWords [] "int") _ _ hstarts hmode (by decide) hread
  obtain ⟨hall, -, -, -⟩ := chain_eq_total (.ofWords [] "int") _ _ hstarts hmode (by decide) hread'
  refine ⟨hstarts, hmode, ⟨hread, htotal, (hlast _ htotal).2⟩, hread', hfails, ?_⟩
  rw [← hall]
  intro hzero
  have hstatus := hzero _ (List.mem_of_getElem? hfails)
  cases hstatus

end PointSum
