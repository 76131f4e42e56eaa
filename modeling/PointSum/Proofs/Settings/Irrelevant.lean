import PointSum.Proofs.Settings.Refusal
import PointSum.Proofs.Settings.Written
import PointSum.Proofs.Toml.Continued

/-!
# What a configuration does not depend on

* `isPassable_of_isSimple` : a text, a truth value, or a number that can be read may be passed over;
* `ofTable?_put` : a new table of such values beside the section does not change the configuration;
* `irrelevant_content` : nor does a byte order mark, a comment, or such a table behind a document, whatever keys are in
  it.
-/

namespace PointSum.Settings

set_option autoImplicit false

open Text Toml

variable {cs : List Char} {home key : String} {root t : Table Value} {d : Document} {w : Value} {c : Config}

/-! ## Values that are passed over -/

theorem isPassable_of_isSimple (h : w.IsSimple) : isPassable w := by
  cases w with
  | text s => rfl
  | boolean b => rfl
  | number n =>
    have hreadable : n.isReadable := h
    rw [isPassable]
    exact hreadable
  | _ => cases h

theorem areEntriesPassable_of_forall {es : List (String × Value)} (h : ∀ e ∈ es, e.2.IsSimple) :
    areEntriesPassable es := by
  induction es with
  | nil => rfl
  | cons e es ih =>
    obtain ⟨he, hes⟩ := List.forall_mem_cons.1 h
    rw [areEntriesPassable, isPassable_of_isSimple he, ih hes]
    rfl

theorem areEntriesPassable_append (es fs : List (String × Value)) :
    areEntriesPassable (es ++ fs) = (areEntriesPassable es && areEntriesPassable fs) := by
  induction es with
  | nil => rfl
  | cons e es ih => rw [List.cons_append, areEntriesPassable, areEntriesPassable, ih, Bool.and_assoc]

theorem putEntry_of_lookup {es : List (String × Value)} (h : es.lookup key = none) (w : Value) :
    Table.putEntry key w es = es ++ [(key, w)] := by
  induction es with
  | nil => rfl
  | cons e es ih =>
    obtain ⟨j, u⟩ := e
    rw [Table.lookup_cons] at h
    split at h
    · cases h
    · next hj => rw [Table.putEntry, if_neg (Ne.symm hj), ih h, List.cons_append]

/-- A new table beside the section, with nothing in it but values that are passed over, changes nothing. -/
theorem ofTable?_put (hkey : key ≠ "app") (hnew : root.get? key = none) (ht : ∀ e ∈ t.entries, e.2.IsSimple) :
    Config.ofTable? (root.put key (.table t)) = Config.ofTable? root := by
  have htable : areEntriesPassable [(key, .table t)] := by
    rw [areEntriesPassable, isPassable, areEntriesPassable_of_forall ht]
    rfl
  have hentries : arePassableBeside "app" (root.put key (.table t)) = arePassableBeside "app" root := by
    have hput : (root.put key (.table t)).entries = root.entries ++ [(key, .table t)] := putEntry_of_lookup hnew _
    have hfilter : [(key, Value.table t)].filter (·.1 ≠ "app") = [(key, .table t)] := by simp [hkey]
    unfold arePassableBeside
    rw [hput, List.filter_append, hfilter, areEntriesPassable_append, htable, Bool.and_true]
  unfold Config.ofTable?
  rw [hentries, Table.get?_put_of_ne hkey.symm]

/-! ## Documents with more in them -/

theorem tokens?_mark (h : cs.head? ≠ some byteOrderMark) : tokens? (byteOrderMark :: cs) = tokens? cs := by
  have hpaired : returnsPaired (byteOrderMark :: cs) = returnsPaired cs := by
    cases cs with
    | nil => rfl
    | cons c cs => rfl
  have hmark : withoutMark (byteOrderMark :: cs) = cs := rfl
  rw [tokens?, tokens?, hpaired, hmark, withoutMark_of_head? h]

theorem config_of_reads (h : Reads cs d) (hc : Config.ofTable? d.root = some c) (home : String) :
    (ConfigFile.file (encode cs)).config home = (some c, []) :=
  config_of_read? h.read? hc home

/-- What gives a configuration gives the same one, without a warning, if a byte order mark comes before it, or if it
goes on with a comment, or with a new table that is not the section and has integers, truth values and texts in it,
whatever their keys are; with or without a line end at the end. -/
theorem irrelevant_content (h : ((ConfigFile.file (encode cs)).config home).1 = some c)
    (hmark : cs.head? ≠ some byteOrderMark) :
    (ConfigFile.file (encode (byteOrderMark :: cs))).config home = (some c, []) ∧
    (∀ comment, (∀ a ∈ comment, a = '\t' ∨ (0x20 ≤ a.toNat ∧ a ≠ '\x7f')) →
      (ConfigFile.file (encode (cs ++ '\n' :: '#' :: comment))).config home = (some c, [])) ∧
    (∀ k pairs tail, IsBareKey k → k ≠ "app".toList →
      (∀ root, Toml.read? cs = some root → root.get? (.ofList k) = none) →
      (∀ p ∈ pairs, IsBareKey p.1 ∧ LineValue p.2) → (pairs.map Prod.fst).Nodup → tail ∈ [[], ['\n']] →
      (ConfigFile.file (encode (cs ++ '\n' :: tableText k pairs ++ tail))).config home = (some c, [])) := by
  obtain ⟨cs', root, hcs, hroot, hc⟩ := exists_of_config h
  obtain rfl := encode_injective hcs
  obtain ⟨d, hd, rfl⟩ := exists_reads hroot
  refine ⟨?_, fun comment hcomment => ?_, fun k pairs tail hk happ hnew hpairs hnodup htail => ?_⟩
  · apply config_of_read? (t := d.root) _ hc home
    rw [Toml.read?, tokens?_mark hmark]
    exact hroot
  · have htext : ∀ a ∈ comment, isTextChar a := by
      intro a ha
      simpa [isTextChar] using hcomment a ha
    exact config_of_reads (hd.comment htext) hc home
  · obtain ⟨t, hreads, ht⟩ := hd.table hk (hnew _ hroot) hpairs hnodup
    have hkey : String.ofList k ≠ "app" := by
      intro heq
      apply happ
      rw [← heq, String.toList_ofList]
    have hsame := (ofTable?_put hkey (hnew _ hroot) ht.simple).trans hc
    have htails : tail = [] ∨ tail = ['\n'] := by simpa using htail
    rcases htails with rfl | rfl
    · rw [List.append_nil]
      exact config_of_reads hreads hsame home
    · exact config_of_reads hreads.blank hsame home

/-- A document that ends in its section, without a line end, and goes on with a table with the keys of the settings. -/
theorem irrelevant_content_sameKeys :
    ((ConfigFile.file (encode "[app]\nnumeric = 'float'".toList)).config "/home").1 = some ⟨some ⟨some "float"⟩⟩ ∧
    (ConfigFile.file (encode (byteOrderMark :: "[app]\nnumeric = 'float'".toList))).config "/home" =
      (some ⟨some ⟨some "float"⟩⟩, []) ∧
    (ConfigFile.file (encode ("[app]\nnumeric = 'float'".toList ++ '\n' :: '#' :: "\t= [".toList))).config "/home" =
      (some ⟨some ⟨some "float"⟩⟩, []) ∧
    (ConfigFile.file (encode ("[app]\nnumeric = 'float'".toList ++
      '\n' :: tableText "x".toList [("numeric".toList, "-1_0".toList), ("app".toList, "true".toList),
        ("1".toList, "\"\\n#\"".toList)] ++ ['\n']))).config "/home" = (some ⟨some ⟨some "float"⟩⟩, []) := by
  have hsetting : ((ConfigFile.file (encode "[app]\nnumeric = 'float'".toList)).config "/home").1 =
      some ⟨some ⟨some "float"⟩⟩ := by decide +kernel
  have hnew : ∀ root, Toml.read? "[app]\nnumeric = 'float'".toList = some root →
      root.get? (.ofList "x".toList) = none := by
    intro root hroot
    cases hroot
    rfl
  have hdigits : Grouped Number.isDigit "1_0".toList := .mark rfl (.single rfl)
  have hinteger : LineValue "-1_0".toList :=
    .integer (n := -10) ⟨['-'], by decide, "1_0".toList, ⟨hdigits, by decide⟩, rfl, rfl⟩ (by decide)
  have htext : LineValue "\"\\n#\"".toList := .text (.escape rfl (.short rfl) (.char rfl (by decide) (by decide) .nil))
  have hbare : ∀ cs : List Char, cs.all (fun c => c.isAlphanum || c == '_' || c == '-') → cs ≠ [] → IsBareKey cs :=
    fun cs hall hne => ⟨hne, List.all_eq_true.1 hall⟩
  have hpairs : ∀ p ∈ [("numeric".toList, "-1_0".toList), ("app".toList, "true".toList),
      ("1".toList, "\"\\n#\"".toList)], IsBareKey p.1 ∧ LineValue p.2 := by
    simp only [List.forall_mem_cons, List.not_mem_nil, false_implies, implies_true, and_true]
    exact ⟨⟨hbare _ rfl (by decide), hinteger⟩, ⟨hbare _ rfl (by decide), .boolean (.inl rfl)⟩,
      hbare _ rfl (by decide), htext⟩
  obtain ⟨hbegins, hcomment, htable⟩ := irrelevant_content hsetting (by decide)
  refine ⟨hsetting, hbegins, hcomment _ ?_, ?_⟩
  · show ∀ a ∈ ['\t', '=', ' ', '['], _
    simp only [List.forall_mem_cons, List.not_mem_nil, false_implies, implies_true, and_true]
    decide
  · exact htable _ _ _ (hbare _ rfl (by decide)) (by decide) hnew hpairs (by decide) (by decide)

end PointSum.Settings
