import PointSum.Proofs.Toml.Document

/-!
# What was written stays

A document grows by keys and headers. Both may add to tables, but a value to which nothing can be added stays where it
was written.

* `Value.IsFrozen v` : nothing can be added to `v`;
* `Table.At keys v t` : the keys lead through tables from `t` to `v`; `At.alter` : a change along a path leaves frozen
  values where they are, if the change at its end does;
* `Document.Keeps d d'` : all frozen values of `d` are where they were in `d'`; `Document.keeps_assign`,
  `Document.keeps_openTable`, `Document.keeps_openElement` : so it is behind every key and every header.
-/

namespace PointSum.Toml

set_option autoImplicit false

variable {k key : String} {path keys : Path} {byKey : Bool} {t t' c : Table Value} {v w : Value}

/-- Nothing can be added to the value. -/
def Value.IsFrozen : Value → Prop
  | .table t => t.origin = .inline
  | .tables _ => False
  | _ => True

namespace Table

/-- The keys lead through tables to the value. -/
def At : Path → Value → Table Value → Prop
  | [], _, _ => False
  | [k], v, t => t.get? k = some v
  | k :: j :: keys, v, t => ∃ c, t.get? k = some (.table c) ∧ At (j :: keys) v c

/-- Where a value is does not depend on how the table came to be. -/
theorem at_origin (origin : Origin) : At keys v { t with origin } ↔ At keys v t := by
  rcases keys with _ | ⟨k, _ | ⟨j, keys⟩⟩
  · rfl
  · rfl
  · rfl

theorem At.exists_get? (h : At (k :: keys) v t) : ∃ u, t.get? k = some u := by
  cases keys with
  | nil => exact ⟨v, h⟩
  | cons j keys =>
    obtain ⟨c, hc, -⟩ := h
    exact ⟨.table c, hc⟩

/-- What is put for another key is not in the way. -/
theorem At.put_of_ne (h : At (k :: keys) v t) (hne : k ≠ key) (w : Value) : At (k :: keys) v (t.put key w) := by
  cases keys with
  | nil => exact (get?_put_of_ne hne t w).trans h
  | cons j keys =>
    obtain ⟨c, hc, hat⟩ := h
    exact ⟨c, (get?_put_of_ne hne t w).trans hc, hat⟩

/-- Nor is what is put for a key without a value. -/
theorem At.put_of_none (h : At keys v t) (hnone : t.get? key = none) (w : Value) : At keys v (t.put key w) := by
  cases keys with
  | nil => cases h
  | cons k keys =>
    apply h.put_of_ne
    rintro rfl
    obtain ⟨u, hu⟩ := h.exists_get?
    rw [hnone] at hu
    cases hu

/-- A table may be put in the place of another if the frozen values of that one are in it. -/
theorem At.put_table (h : At (key :: keys) v t) (hv : v.IsFrozen) (hget : t.get? key = some (.table c))
    (hc : c.origin ≠ .inline) (hkeep : ∀ j js, At (j :: js) v c → At (j :: js) v t') :
    At (key :: keys) v (t.put key (.table t')) := by
  cases keys with
  | nil =>
    -- The frozen value is no table but one in braces.
    obtain rfl := Option.some.inj (hget.symm.trans h)
    exact absurd hv hc
  | cons j keys =>
    obtain ⟨d, hd, hat⟩ := h
    obtain rfl := Value.table.inj (Option.some.inj (hget.symm.trans hd))
    exact ⟨t', get?_put_self t key _, hkeep j keys hat⟩

theorem not_at_tables {es : List (Table Value)} (h : At (key :: keys) v t) (hv : v.IsFrozen)
    (hget : t.get? key = some (.tables es)) : False := by
  cases keys with
  | nil =>
    obtain rfl := Option.some.inj (hget.symm.trans h)
    exact hv
  | cons j keys =>
    obtain ⟨d, hd, -⟩ := h
    rw [hget] at hd
    cases hd

variable {change : Table Value → Option (Table Value)}

/-- The change leaves frozen values where they are. -/
def Spares (change : Table Value → Option (Table Value)) : Prop :=
  ∀ ⦃t t' keys v⦄, change t = some t' → v.IsFrozen → At keys v t → At keys v t'

theorem Spares.alter (hchange : Spares change) (byKey : Bool) (path : Path) : Spares (alter byKey change path) := by
  intro t t' keys v h hv hat
  induction path generalizing t t' keys with
  | nil => exact hchange h hv hat
  | cons k path ih =>
    cases keys with
    | nil => cases hat
    | cons j keys =>
      unfold Table.alter at h
      split at h
      · next hk =>
        obtain ⟨c, -, rfl⟩ := Option.map_eq_some_iff.1 h
        exact hat.put_of_none hk _
      · next c hk =>
        split at h
        · cases h
        · next hopen =>
          obtain ⟨c', hc', rfl⟩ := Option.map_eq_some_iff.1 h
          by_cases hj : j = k
          · subst hj
            apply hat.put_table hv hk fun horigin => hopen (.inl horigin)
            intro i is hin
            apply ih hc'
            split
            · exact (at_origin .dotted).2 hin
            · exact hin
          · exact hat.put_of_ne hj _
      · next es hk =>
        split at h
        · cases h
        · obtain ⟨c', -, rfl⟩ := Option.map_eq_some_iff.1 h
          by_cases hj : j = k
          · subst hj
            exact (not_at_tables hat hv hk).elim
          · exact hat.put_of_ne hj _
      · cases h

theorem spares_assignHere (isDotted : Bool) (key : String) (w : Value) : Spares (assignHere isDotted key w) := by
  intro t t' keys v h _ hat
  unfold assignHere at h
  split at h
  · cases h
  · split at h
    · cases h
    · next hnone =>
      cases h
      exact hat.put_of_none hnone w

theorem spares_assign (path : Path) (w : Value) : Spares (assign path w) := by
  intro t t' keys v h hv hat
  unfold assign at h
  split at h
  · cases h
  · exact (spares_assignHere _ _ w).alter true _ h hv hat

theorem spares_declareHere (key : String) : Spares (declareHere key) := by
  intro t t' keys v h hv hat
  unfold declareHere at h
  split at h
  · next hnone =>
    cases h
    exact hat.put_of_none hnone _
  · next c hc =>
    split at h
    · next himplied =>
      cases h
      cases keys with
      | nil => cases hat
      | cons k keys =>
        by_cases hk : k = key
        · subst hk
          apply hat.put_table hv hc
          · simp [himplied]
          · exact fun j js => (at_origin .declared).2
        · exact hat.put_of_ne hk _
    · cases h
  · cases h

theorem spares_appendHere (key : String) : Spares (appendHere key) := by
  intro t t' keys v h hv hat
  unfold appendHere at h
  split at h
  · next hnone =>
    cases h
    exact hat.put_of_none hnone _
  · next es hes =>
    cases h
    cases keys with
    | nil => cases hat
    | cons k keys =>
      by_cases hk : k = key
      · subst hk
        exact (not_at_tables hat hv hes).elim
      · exact hat.put_of_ne hk _
  · cases h

end Table

namespace Document

open Table

variable {d d' d'' : Document}

/-- All frozen values are where they were. -/
def Keeps (d d' : Document) : Prop :=
  ∀ keys v, v.IsFrozen → d.root.At keys v → d'.root.At keys v

theorem Keeps.refl (d : Document) : d.Keeps d := fun _ _ _ h => h

theorem Keeps.trans (h : d.Keeps d') (h' : d'.Keeps d'') : d.Keeps d'' :=
  fun keys v hv hat => h' keys v hv (h keys v hv hat)

theorem keeps_assign (h : d.assign path v = some d') : d.Keeps d' := by
  obtain ⟨root, hroot, rfl⟩ := Option.map_eq_some_iff.1 h
  intro keys w hw hat
  exact (spares_assign path v).alter false _ hroot hw hat

theorem keeps_atHeader {change : String → Table Value → Option (Table Value)} (hchange : ∀ key, Spares (change key))
    (h : d.atHeader change path = some d') : d.Keeps d' := by
  unfold atHeader at h
  split at h
  · cases h
  · obtain ⟨root, hroot, rfl⟩ := Option.map_eq_some_iff.1 h
    intro keys w hw hat
    exact (hchange _).alter false _ hroot hw hat

theorem keeps_openTable (h : d.openTable path = some d') : d.Keeps d' := keeps_atHeader spares_declareHere h

theorem keeps_openElement (h : d.openElement path = some d') : d.Keeps d' := keeps_atHeader spares_appendHere h

end Document

end PointSum.Toml
