import Mathlib.Data.List.Basic
import PointSum.Toml.Document

/-!
# Tables that may be declared again

A table that only the header of a table inside it implied may still be declared by a header of its own. Such a table
has nothing but tables in it, because a key is given a value below a header or behind a dotted key, and both of these
make its table one that is more than implied.

* `Table.get?_put_self`, `Table.get?_put_of_ne` : the entries of a table;
* `Table.alter_cons` : what a change at the end of a path does to the table at its beginning;
* `Table.Bare t` : if `t` was only implied, there are only tables in it;
* `Document.Guards key d` : the table of the key at the root of `d` is bare, and more than implied while the cursor is
  on it; `Guards.assign`, `Guards.atHeader` : keys and headers keep it so;
* `Document.openTable_eq_none` : no header declares a table again in which a key has a value.
-/

namespace PointSum.Toml

set_option autoImplicit false

variable {k key : String} {path : Path} {byKey : Bool} {t t' : Table Value} {v w : Value}

/-- The value is a table, or an array of tables that headers filled. -/
def Value.IsTable : Value → Prop
  | .table _ => True
  | .tables _ => True
  | _ => False

/-- The value is no table that was only implied. -/
def Value.IsSettled : Value → Prop
  | .table t => t.origin ≠ .implied
  | _ => True

namespace Table

variable {change : Table Value → Option (Table Value)}

/-! ## Entries -/

theorem lookup_cons (k key : String) (v : Value) (es : List (String × Value)) :
    ((k, v) :: es).lookup key = if key = k then some v else es.lookup key := by
  by_cases h : key = k
  · simp [h]
  · have hne : (key == k) = false := beq_false_of_ne h
    simp [List.lookup_cons, hne, h]

theorem lookup_putEntry (k key : String) (v : Value) (es : List (String × Value)) :
    (putEntry k v es).lookup key = if key = k then some v else es.lookup key := by
  induction es with
  | nil => exact lookup_cons k key v []
  | cons e es ih =>
    obtain ⟨j, u⟩ := e
    by_cases hj : j = k
    · rw [putEntry, if_pos hj, lookup_cons, lookup_cons, hj]
      split <;> rfl
    · rw [putEntry, if_neg hj, lookup_cons, lookup_cons, ih]
      by_cases h : key = j
      · rw [if_pos h, if_pos h, if_neg (h ▸ hj)]
      · rw [if_neg h, if_neg h]

@[simp] theorem get?_put_self (t : Table Value) (k : String) (v : Value) : (t.put k v).get? k = some v := by
  unfold get? put
  rw [lookup_putEntry, if_pos rfl]

theorem get?_put_of_ne (h : key ≠ k) (t : Table Value) (v : Value) : (t.put k v).get? key = t.get? key := by
  unfold get? put
  rw [lookup_putEntry, if_neg h]

theorem mem_of_get? (h : t.get? key = some v) : (key, v) ∈ t.entries := by
  obtain ⟨l₁, l₂, hes, -⟩ := List.lookup_eq_some_iff.1 h
  rw [hes]
  simp

theorem mem_putEntry {e : String × Value} {es : List (String × Value)} (h : e ∈ putEntry k v es) :
    e = (k, v) ∨ e ∈ es := by
  induction es with
  | nil => exact .inl (List.mem_singleton.1 h)
  | cons d es ih =>
    unfold putEntry at h
    split at h
    · rcases List.mem_cons.1 h with h | h
      · exact .inl h
      · exact .inr (List.mem_cons_of_mem d h)
    · rcases List.mem_cons.1 h with h | h
      · exact .inr (h ▸ List.mem_cons_self)
      · exact (ih h).imp_right (List.mem_cons_of_mem d)

/-! ## Changes along a path -/

/-- Along a path the first table only gets another value for the first part: an array of tables, or the table that
further changes made of the one that was there or is new. A dotted key makes that table a dotted one. -/
theorem alter_cons (h : alter byKey change (k :: path) t = some t') :
    (∃ es, t' = t.put k (.tables es)) ∨
      ∃ c c', t' = t.put k (.table c') ∧ alter byKey change path c = some c' ∧
        (byKey → c.origin = .dotted) ∧ (byKey = false → t.get? k = some (.table c) ∨
          t.get? k = none ∧ c = empty .implied) := by
  unfold alter at h
  split at h
  · next hk =>
    obtain ⟨c', hc', rfl⟩ := Option.map_eq_some_iff.1 h
    refine .inr ⟨_, c', rfl, hc', ?_, ?_⟩
    · rintro rfl
      rfl
    · rintro rfl
      exact .inr ⟨hk, rfl⟩
  · next c hk =>
    split at h
    · cases h
    · obtain ⟨c', hc', rfl⟩ := Option.map_eq_some_iff.1 h
      refine .inr ⟨_, c', rfl, hc', ?_, ?_⟩
      · rintro rfl
        rfl
      · rintro rfl
        exact .inl hk
  · split at h
    · cases h
    · obtain ⟨c', -, rfl⟩ := Option.map_eq_some_iff.1 h
      exact .inl ⟨_, rfl⟩
  · cases h

theorem origin_alter (hchange : ∀ {t t'}, change t = some t' → t'.origin = t.origin)
    (h : alter byKey change path t = some t') : t'.origin = t.origin := by
  cases path with
  | nil => exact hchange h
  | cons k path =>
    rcases alter_cons h with ⟨es, rfl⟩ | ⟨c, c', rfl, -⟩
    · rfl
    · rfl

theorem origin_assignHere {isDotted : Bool} (h : assignHere isDotted key v t = some t') : t'.origin = t.origin := by
  unfold assignHere at h
  split at h
  · cases h
  · split at h
    · cases h
    · cases h
      rfl

/-- Giving a value to a key puts it, or a table that dotted keys made, at the first part of the key. -/
theorem assign_settles (hv : v.IsSettled) (h : assign path v t = some t') :
    ∃ k w, t' = t.put k w ∧ w.IsSettled := by
  unfold assign at h
  split at h
  · cases h
  · next last _ =>
    generalize path.dropLast = front at h
    cases front with
    | nil =>
      unfold alter assignHere at h
      split at h
      · cases h
      · split at h
        · cases h
        · cases h
          exact ⟨last, v, rfl, hv⟩
    | cons k front =>
      rcases alter_cons h with ⟨es, rfl⟩ | ⟨c, c', rfl, hc, hdotted, -⟩
      · exact ⟨k, .tables es, rfl, trivial⟩
      · refine ⟨k, .table c', rfl, ?_⟩
        have horigin := origin_alter origin_assignHere hc
        rw [hdotted rfl] at horigin
        simp [Value.IsSettled, horigin]

theorem origin_assign (h : assign path v t = some t') : t'.origin = t.origin := by
  unfold assign at h
  split at h
  · cases h
  · exact origin_alter origin_assignHere h

/-! ## Bare tables -/

/-- If the table was only implied, there are only tables in it. -/
def Bare (t : Table Value) : Prop :=
  t.origin = .implied → ∀ e ∈ t.entries, e.2.IsTable

theorem bare_empty (origin : Origin) : Bare (empty origin) := by
  intro _ e he
  cases he

theorem Bare.put (ht : t.Bare) (hv : v.IsTable) (k : String) : (t.put k v).Bare := by
  intro horigin e he
  rcases mem_putEntry he with rfl | he
  · exact hv
  · exact ht horigin e he

theorem Bare.alter_cons (ht : t.Bare) (h : alter byKey change (k :: path) t = some t') : t'.Bare := by
  rcases Table.alter_cons h with ⟨es, rfl⟩ | ⟨c, c', rfl, -⟩
  · have hes : (Value.tables es).IsTable := trivial
    exact ht.put hes k
  · have hc' : (Value.table c').IsTable := trivial
    exact ht.put hc' k

/-- The change puts a table in the place of a key, and not one that is only implied. -/
def PutsTable (change : String → Table Value → Option (Table Value)) : Prop :=
  ∀ {key t t'}, change key t = some t' → ∃ v, t' = t.put key v ∧ v.IsTable ∧ v.IsSettled

theorem putsTable_declareHere : PutsTable declareHere := by
  intro key t t' h
  unfold declareHere at h
  split at h
  · cases h
    exact ⟨_, rfl, trivial, by simp [Value.IsSettled, empty]⟩
  · split at h
    · cases h
      exact ⟨_, rfl, trivial, by simp [Value.IsSettled]⟩
    · cases h
  · cases h

theorem declareHere_eq_none (h : t.get? key = some v) (hv : v.IsSettled) : declareHere key t = none := by
  unfold declareHere
  rw [h]
  cases v with
  | table c => exact if_neg hv
  | _ => rfl

theorem putsTable_appendHere : PutsTable appendHere := by
  intro key t t' h
  unfold appendHere at h
  split at h
  · cases h
    exact ⟨_, rfl, trivial, trivial⟩
  · cases h
    exact ⟨_, rfl, trivial, trivial⟩
  · cases h

end Table

namespace Document

open Table

variable {d d' : Document} {change : String → Table Value → Option (Table Value)}

/-- The table of the key at the root is bare, and more than implied while the cursor is on it. -/
structure Guards (key : String) (d : Document) : Prop where
  bare : ∀ t, d.root.get? key = some (.table t) → t.Bare
  cursor : d.cursor = [key] → ∃ v, d.root.get? key = some v ∧ v.IsSettled

theorem guards_empty (key : String) : Guards key empty := by
  constructor
  · intro t h
    cases h
  · intro h
    cases h

theorem bare_of_isSettled (h : (Value.table t).IsSettled) : t.Bare := fun horigin => absurd horigin h

/-- What may be put at the root, with the cursor on a path: bare tables for the key, and settled ones under the
cursor. -/
theorem Guards.put (hd : d.Guards key) (hbare : k = key → ∀ t, v = .table t → t.Bare)
    (hcursor : path = [key] → k = key ∧ v.IsSettled ∨ k ≠ key ∧ d.cursor = [key]) :
    Guards key ⟨d.root.put k v, path⟩ := by
  by_cases hk : k = key
  · subst hk
    constructor
    · intro t ht
      rw [get?_put_self] at ht
      exact hbare rfl t (Option.some.inj ht)
    · intro hpath
      rcases hcursor hpath with ⟨-, hv⟩ | ⟨hne, -⟩
      · exact ⟨v, get?_put_self _ _ _, hv⟩
      · exact absurd rfl hne
  · have hget := get?_put_of_ne (Ne.symm hk) d.root v
    constructor
    · intro t ht
      rw [hget] at ht
      exact hd.bare t ht
    · intro hpath
      rcases hcursor hpath with ⟨hkey, -⟩ | ⟨-, hold⟩
      · exact absurd hkey hk
      · rw [hget]
        exact hd.cursor hold

/-- The table below the root that a path leads into by headers is bare. -/
theorem Guards.bare_of_alter {c : Table Value} (hd : d.Guards key)
    (h : d.root.get? key = some (.table c) ∨ d.root.get? key = none ∧ c = Table.empty .implied) : c.Bare := by
  rcases h with hc | ⟨-, rfl⟩
  · exact hd.bare c hc
  · exact bare_empty .implied

theorem Guards.assign (hd : d.Guards key) (hv : v.IsSettled) (h : d.assign path v = some d') : d'.Guards key := by
  obtain ⟨root, hroot, rfl⟩ := Option.map_eq_some_iff.1 h
  -- The cases are those of the cursor: on the root, on a table at the root, or farther down.
  rcases hcursor : d.cursor with _ | ⟨k, _ | ⟨j, rest⟩⟩
  · rw [hcursor] at hroot
    obtain ⟨k, w, rfl, hw⟩ := assign_settles hv hroot
    apply hd.put
    · rintro - t rfl
      exact bare_of_isSettled hw
    · rw [hcursor]
      rintro ⟨⟩
  · rw [hcursor] at hroot
    rcases alter_cons hroot with ⟨es, rfl⟩ | ⟨c, c', rfl, hc, -, hold⟩
    · apply hd.put
      · rintro - t ⟨⟩
      · rw [hcursor]
        rintro ⟨⟩
        exact .inl ⟨rfl, trivial⟩
    · have hsettled : k = key → (Value.table c').IsSettled := by
        rintro rfl
        obtain ⟨u, hu, hu'⟩ := hd.cursor hcursor
        rw [hu] at hold
        rcases hold rfl with hc₀ | ⟨hnone, -⟩
        · cases hc₀
          have horigin : c'.origin = c.origin := origin_assign hc
          exact fun himplied => hu' (horigin ▸ himplied)
        · cases hnone
      apply hd.put
      · rintro hk t ⟨⟩
        exact bare_of_isSettled (hsettled hk)
      · rw [hcursor]
        rintro ⟨⟩
        exact .inl ⟨rfl, hsettled rfl⟩
  · rw [hcursor] at hroot
    rcases alter_cons hroot with ⟨es, rfl⟩ | ⟨c, c', rfl, hc, -, hold⟩
    · apply hd.put
      · rintro - t ⟨⟩
      · rw [hcursor]
        rintro ⟨⟩
    · apply hd.put
      · rintro rfl t ⟨⟩
        exact (hd.bare_of_alter (hold rfl)).alter_cons hc
      · rw [hcursor]
        rintro ⟨⟩

theorem Guards.atHeader (hchange : PutsTable change) (hd : d.Guards key) (h : d.atHeader change path = some d') :
    d'.Guards key := by
  unfold Document.atHeader at h
  split at h
  · cases h
  · next last hlast =>
    obtain ⟨root, hroot, rfl⟩ := Option.map_eq_some_iff.1 h
    -- A header of one part changes the root, and a longer one a table below it.
    rcases hfront : path.dropLast with _ | ⟨k, front⟩
    · have hpath : path = [last] := by
        rw [← List.dropLast_append_getLast? last hlast, hfront, List.nil_append]
      rw [hfront] at hroot
      obtain ⟨w, rfl, -, hw⟩ := hchange hroot
      apply hd.put
      · rintro - t rfl
        exact bare_of_isSettled hw
      · rw [hpath]
        rintro ⟨⟩
        exact .inl ⟨rfl, hw⟩
    · have hpath : path ≠ [key] := by
        rintro rfl
        cases hfront
      rw [hfront] at hroot
      rcases alter_cons hroot with ⟨es, rfl⟩ | ⟨c, c', rfl, hc, -, hold⟩
      · apply hd.put
        · rintro - t ⟨⟩
        · exact fun h => absurd h hpath
      · apply hd.put
        · rintro rfl t ⟨⟩
          have hbare := hd.bare_of_alter (hold rfl)
          cases front with
          | nil =>
            obtain ⟨w, rfl, hw, -⟩ := hchange hc
            exact hbare.put hw last
          | cons j front => exact hbare.alter_cons hc
        · exact fun h => absurd h hpath

/-- Of a key that has a value which is no table, or a table with such a value in it, there is no header any more. -/
theorem openTable_eq_none (hd : d.Guards key) (h : d.root.get? key = some v)
    (hv : ∀ t, v = .table t → ∃ j w, t.get? j = some w ∧ ¬ w.IsTable) : d.openTable [key] = none := by
  have hsettled : v.IsSettled := by
    cases v with
    | table t =>
      obtain ⟨j, w, hw, hne⟩ := hv t rfl
      intro himplied
      exact hne (hd.bare t h himplied _ (mem_of_get? hw))
    | _ => trivial
  have hnone := declareHere_eq_none h hsettled
  unfold openTable atHeader
  simp [alter, hnone]

end Document

end PointSum.Toml
