import PointSum.Proofs.Number.Shortest
import PointSum.Proofs.Point.Grammar
import PointSum.Proofs.Run.Sum

/-!
# Points of binary numbers read back

* `ReadsBack s p` : `s` is read as `p`, each coordinate bit for bit, or a NaN as a NaN;
* `readsBack_pair` : two coordinates in any layout, written as a point is written, read back;
* `text_readsBack` : so do the text of a point and the pair of the literal forms of its coordinates, in single and in
  double precision, and the output of a run that adds binary numbers.
-/

namespace PointSum

set_option autoImplicit false

open Text Number

variable {f : BinaryFormat}

/-! ## The characters of a binary number -/

namespace Number

theorem Decimal.IsLiteralChar.ne {c : Char} (h : Decimal.IsLiteralChar c) : isBlank c = false ∧ c ≠ ',' := by
  rcases h with h | h
  · refine ⟨isBlank_of_isDigit h, ?_⟩
    rintro rfl
    exact absurd h (by decide)
  · simp only [List.mem_cons, List.not_mem_nil, or_false] at h
    rcases h with rfl | rfl | rfl | rfl | rfl <;> decide

theorem mem_ne_of_all {cs : List Char} (h : cs.all fun c => !isBlank c && c != ',') {c : Char} (hc : c ∈ cs) :
    isBlank c = false ∧ c ≠ ',' := by
  simpa using List.all_eq_true.1 h c hc

/-- A binary number in any layout holds no blank character and no comma. -/
theorem Binary.mem_render {l : Layout} (hl : l.positional = none ∨ f.Moderate) {a : Binary f} {c : Char}
    (hc : c ∈ a.render l) : isBlank c = false ∧ c ≠ ',' := by
  unfold Binary.render at hc
  by_cases hnan : a.isNaN
  · rw [if_pos hnan] at hc
    exact mem_ne_of_all (by decide) hc
  · rw [if_neg hnan] at hc
    have hsign : (if a.negative then ['-'] else []).all fun c => !isBlank c && c != ',' := by
      cases a.negative <;> decide
    by_cases hinf : a.isInfinite
    · simp only [if_pos hinf] at hc
      rcases List.mem_append.1 hc with hc | hc
      · exact mem_ne_of_all hsign hc
      · exact mem_ne_of_all (by decide) hc
    · simp only [if_neg hinf] at hc
      have hm : a.magnitude < f.infinity := by
        simp only [isNaN, isInfinite, decide_eq_true_eq, beq_iff_eq] at hnan hinf
        omega
      obtain ⟨d, hd, -⟩ := read_render_shortest l hl hm
      rcases List.mem_append.1 hc with hc | hc
      · exact mem_ne_of_all hsign hc
      · exact (Decimal.mem_of_read hd hc).ne

end Number

/-! ## Points -/

/-- The text is read as the point, each coordinate bit for bit, or a NaN as a NaN. -/
def ReadsBack (s : String) (p : Point (Binary f)) : Prop :=
  ∃ q, Point.read (Binary f) s = .ok q ∧ p.x.SameUpToNaN q.x ∧ p.y.SameUpToNaN q.y

/-- The literal forms of the coordinates, written as a point is written. -/
def Point.literalPair (p : Point (Binary f)) : String :=
  .ofList (['('] ++ Scalar.literal p.x ++ [',', ' '] ++ Scalar.literal p.y ++ [')'])

theorem readsBack_pair {l : Layout} (hl : l.positional = none ∨ f.Moderate) (p : Point (Binary f)) :
    ReadsBack (.ofList (['('] ++ p.x.render l ++ [',', ' '] ++ p.y.render l ++ [')'])) p := by
  obtain ⟨a, ha, hxa⟩ := Binary.readLiteral_render l hl p.x
  obtain ⟨b, hb, hyb⟩ := Binary.readLiteral_render l hl p.y
  exact ⟨⟨a, b⟩, read_pair (fun _ hc => Binary.mem_render hl hc) (fun _ hc => (Binary.mem_render hl hc).1) ha hb,
    hxa, hyb⟩

theorem readsBack_text (p : Point (Binary f)) : ReadsBack p.text p := readsBack_pair (.inl rfl) p

theorem readsBack_literalPair (hf : f.Moderate) (p : Point (Binary f)) : ReadsBack p.literalPair p :=
  readsBack_pair (.inr hf) p

/-- A line end behind the text of a point does not matter. -/
theorem ReadsBack.line {s : String} {p : Point (Binary f)} (h : ReadsBack s p) : ReadsBack (s ++ "\n") p := by
  obtain ⟨q, hq, hx, hy⟩ := h
  have hend : Blanks ['\n'] := by
    intro c hc
    rw [List.mem_singleton.1 hc]
    decide
  have hcs : Point.read (Binary f) (.ofList s.toList) = .ok q := by rwa [String.ofList_toList]
  have := read_append Blanks.nil hend hcs
  rw [List.nil_append, String.ofList_append, String.ofList_toList] at this
  exact ⟨q, this, hx, hy⟩

/-! ## Runs -/

/-- The text of a point of binary numbers in single or double precision, and the pair of the literal forms of its
coordinates, are read as the point, each coordinate bit for bit, or a NaN as a NaN. So the output of a run that adds
binary numbers denotes the sum that it is the text of. -/
theorem text_readsBack :
    (∀ p : Point (Binary .single), ReadsBack p.text p ∧ ReadsBack p.literalPair p) ∧
    (∀ p : Point (Binary .double), ReadsBack p.text p ∧ ReadsBack p.literalPair p) ∧
    ∀ s r, CommandLine.read s.arguments = .ok r → (chooseMode s).1 = .float → (run s).status = 0 →
      ∃ p q sum, Point.read (Binary .double) r.lhs = .ok p ∧ Point.read (Binary .double) r.rhs = .ok q ∧
        p.add q = .ok sum ∧ (run s).output = sum.text ++ "\n" ∧ ReadsBack sum.text sum ∧
        ReadsBack (run s).output sum := by
  refine ⟨fun p => ⟨readsBack_text p, readsBack_literalPair moderate_single p⟩,
    fun p => ⟨readsBack_text p, readsBack_literalPair moderate_double p⟩, fun s r hr hmode hstatus => ?_⟩
  obtain ⟨hstarts, t, ht⟩ := (run_status_eq_zero_iff hr).1 hstatus
  have houtput := run_output hstarts hr ht
  rw [hmode, sumText_float_eq_ok_iff] at ht
  obtain ⟨p, q, sum, hp, hq, hsum, rfl⟩ := ht
  exact ⟨p, q, sum, hp, hq, hsum, houtput, readsBack_text sum, houtput ▸ (readsBack_text sum).line⟩

theorem text_readsBack_run :
    CommandLine.read (Surroundings.ofWords ["add", "inf,-0", "(-1e400, -.0)"] "float").arguments =
        .ok ⟨"inf,-0", "(-1e400, -.0)"⟩ ∧
      (chooseMode (.ofWords ["add", "inf,-0", "(-1e400, -.0)"] "float")).1 = .float ∧
      (run (.ofWords ["add", "inf,-0", "(-1e400, -.0)"] "float")).status = 0 ∧
      ∃ p q sum, Point.read (Binary .double) "inf,-0" = .ok p ∧
        Point.read (Binary .double) "(-1e400, -.0)" = .ok q ∧ p.add q = .ok sum ∧
        (run (.ofWords ["add", "inf,-0", "(-1e400, -.0)"] "float")).output = sum.text ++ "\n" ∧
        ReadsBack sum.text sum ∧
        ReadsBack (run (.ofWords ["add", "inf,-0", "(-1e400, -.0)"] "float")).output sum := by
  have hread : CommandLine.read (Surroundings.ofWords ["add", "inf,-0", "(-1e400, -.0)"] "float").arguments =
      .ok ⟨"inf,-0", "(-1e400, -.0)"⟩ := by decide +kernel
  have hmode : (chooseMode (.ofWords ["add", "inf,-0", "(-1e400, -.0)"] "float")).1 = .float := by decide +kernel
  have hstatus : (run (.ofWords ["add", "inf,-0", "(-1e400, -.0)"] "float")).status = 0 := by decide +kernel
  exact ⟨hread, hmode, hstatus, text_readsBack.2.2 _ _ hread hmode hstatus⟩

end PointSum
