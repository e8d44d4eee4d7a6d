import CloudMonitor.Lib.Table

/-!
# Rows whose ids come back

A reader holds a copy of a row and later addresses the row by its id. The row
may have been deleted by then and its id given to another one. A `Tracked`
table counts the deletions under each id, and notes the count when a reader
loads the row, so it can be said whether the reader's copy is `Stale`. A copy
that is not is still a version of the stored row (`Holds.row`).
-/

namespace CloudMonitor

/-- `deaths id` is how many rows with that id were deleted, and `seen i id` how
many it were when `i` first loaded or inserted one. Only proofs read either. -/
structure Tracked (ι α : Type) [Row α] where
  table : Table α
  deaths : Int → Nat
  seen : ι → Int → Option Nat
  seen_le : ∀ i id, ∀ n ∈ seen i id, n ≤ deaths id

namespace Tracked

variable {ι α : Type} [Row α]

def ofTable (table : Table α) : Tracked ι α where
  table := table
  deaths _ := 0
  seen _ _ := none
  seen_le := by simp

/-- The id was given to another row, or to none, since `i` loaded it. -/
def Stale (t : Tracked ι α) (i : ι) (id : Int) : Prop := ∃ n ∈ t.seen i id, n ≠ t.deaths id

instance (t : Tracked ι α) (i : ι) (id : Int) : Decidable (t.Stale i id) :=
  inferInstanceAs (Decidable (∃ n ∈ t.seen i id, n ≠ t.deaths id))

def see [DecidableEq ι] (t : Tracked ι α) (i : ι) (ids : List Int) : Tracked ι α where
  table := t.table
  deaths := t.deaths
  seen j id := if j = i ∧ id ∈ ids then (t.seen j id).or (some (t.deaths id)) else t.seen j id
  seen_le j id n hn := by
    split at hn
    · cases hseen : t.seen j id with
      | none => simp_all
      | some m =>
        rw [hseen] at hn
        exact t.seen_le j id n (hseen.trans hn)
    · exact t.seen_le j id n hn

/-- Rows are added or changed, and none is deleted. -/
def put (t : Tracked ι α) (table : Table α) : Tracked ι α := { t with table := table }

def remove (t : Tracked ι α) (p : α → Bool) : Tracked ι α where
  table := t.table.delete p
  deaths id := if (t.table.find? id).any p then t.deaths id + 1 else t.deaths id
  seen := t.seen
  seen_le i id n hn := by
    have hle := t.seen_le i id n hn
    split <;> omega

@[simp] theorem stale_put (t : Tracked ι α) (table : Table α) (i : ι) (id : Int) :
    (t.put table).Stale i id ↔ t.Stale i id := Iff.rfl

-- ---------------------------------------------------------------------------
-- What the stored rows may become
-- ---------------------------------------------------------------------------

/-- From `t` to `t'`, a row that was not deleted in between has become one it
may become. -/
structure Passes (keep : α → α → Prop) (t t' : Tracked ι α) : Prop where
  deaths_le : ∀ id, t.deaths id ≤ t'.deaths id
  seen : ∀ i id, ∀ n ∈ t.seen i id, n ∈ t'.seen i id
  row : ∀ r ∈ t.table, t'.deaths (Row.id r) = t.deaths (Row.id r) →
    ∃ r' ∈ t'.table, Row.id r' = Row.id r ∧ keep r r'

/-- What `i` loaded as `copy` is still stored, if it is not stale. -/
def Holds (keep : α → α → Prop) (t : Tracked ι α) (i : ι) (copy : α) : Prop :=
  ∃ n ∈ t.seen i (Row.id copy), n = t.deaths (Row.id copy) →
    ∃ r ∈ t.table, Row.id r = Row.id copy ∧ keep copy r

section
variable {keep : α → α → Prop} {t t' t'' : Tracked ι α} {i : ι} {copy r : α} {id : Int}

theorem Stale.passes (h : t.Stale i id) (hp : Passes keep t t') : t'.Stale i id := by
  obtain ⟨n, hn, hne⟩ := h
  refine ⟨n, hp.seen i id n hn, ?_⟩
  have hseen := t.seen_le i id n hn
  have hdeaths := hp.deaths_le id
  omega

/-- A row under the id of a copy is a version of it, or it is another row. -/
theorem Holds.row (h : Holds keep t i copy) (hr : r ∈ t.table) (hid : Row.id r = Row.id copy) :
    t.Stale i (Row.id copy) ∨ keep copy r := by
  obtain ⟨n, hn, hrow⟩ := h
  by_cases hsame : n = t.deaths (Row.id copy)
  · obtain ⟨r', hr', hid', hkeep⟩ := hrow hsame
    rw [Table.unique hr hr' (hid.trans hid'.symm)]
    exact .inr hkeep
  · exact .inl ⟨n, hn, hsame⟩

section
variable (hrefl : ∀ r, keep r r)
include hrefl

theorem Passes.refl (t : Tracked ι α) : Passes keep t t where
  deaths_le _ := le_rfl
  seen _ _ _ hn := hn
  row r hr _ := ⟨r, hr, rfl, hrefl r⟩

theorem Passes.see [DecidableEq ι] (t : Tracked ι α) (i : ι) (ids : List Int) :
    Passes keep t (t.see i ids) where
  deaths_le _ := le_rfl
  seen j id n hn := by
    change n ∈ if j = i ∧ id ∈ ids then (t.seen j id).or (some (t.deaths id)) else t.seen j id
    split
    · rw [Option.mem_def.mp hn]
      rfl
    · exact hn
  row r hr _ := ⟨r, hr, rfl, hrefl r⟩

theorem Passes.remove (t : Tracked ι α) (p : α → Bool) : Passes keep t (t.remove p) where
  deaths_le id := by
    change t.deaths id ≤ if _ then _ else _
    split
    · exact Nat.le_succ _
    · exact le_rfl
  seen _ _ _ hn := hn
  row r hr hdeaths := by
    have hfind : t.table.find? (Row.id r) = some r := Table.find?_eq_some.mpr ⟨hr, rfl⟩
    refine ⟨r, Table.mem_delete.mpr ⟨hr, ?_⟩, rfl, hrefl r⟩
    cases hp : p r with
    | false => rfl
    | true => simp [Tracked.remove, hfind, hp] at hdeaths

theorem holds_see [DecidableEq ι] (hr : r ∈ t.table) {ids : List Int} (hid : Row.id r ∈ ids) :
    Holds keep (t.see i ids) i r := by
  have hseen : ∃ n, (t.seen i (Row.id r)).or (some (t.deaths (Row.id r))) = some n := by
    cases t.seen i (Row.id r) with
    | none => exact ⟨_, rfl⟩
    | some n => exact ⟨n, rfl⟩
  obtain ⟨n, hn⟩ := hseen
  refine ⟨n, ?_, fun _ => ⟨r, hr, rfl, hrefl r⟩⟩
  change n ∈ if _ then _ else _
  rw [if_pos ⟨rfl, hid⟩]
  exact hn

end

theorem Passes.put {table : Table α}
    (h : ∀ r ∈ t.table, ∃ r' ∈ table, Row.id r' = Row.id r ∧ keep r r') :
    Passes keep t (t.put table) where
  deaths_le _ := le_rfl
  seen _ _ _ hn := hn
  row r hr _ := h r hr

section
variable (htrans : ∀ {a b c}, keep a b → keep b c → keep a c)
include htrans

theorem Passes.trans (h : Passes keep t t') (h' : Passes keep t' t'') : Passes keep t t'' where
  deaths_le id := (h.deaths_le id).trans (h'.deaths_le id)
  seen i id n hn := h'.seen i id n (h.seen i id n hn)
  row r hr hdeaths := by
    have hfirst := h.deaths_le (Row.id r)
    have hsecond := h'.deaths_le (Row.id r)
    obtain ⟨r', hr', hid', hkeep⟩ := h.row r hr (by omega)
    obtain ⟨r'', hr'', hid'', hkeep'⟩ := h'.row r' hr' (by rw [hid']; omega)
    exact ⟨r'', hr'', hid''.trans hid', htrans hkeep hkeep'⟩

theorem Holds.passes (h : Holds keep t i copy) (hp : Passes keep t t') :
    Holds keep t' i copy := by
  obtain ⟨n, hn, hrow⟩ := h
  refine ⟨n, hp.seen i _ n hn, fun hsame => ?_⟩
  have hseen := t.seen_le i _ n hn
  have hdeaths := hp.deaths_le (Row.id copy)
  obtain ⟨r, hr, hid, hkeep⟩ := hrow (by omega)
  obtain ⟨r', hr', hid', hkeep'⟩ := hp.row r hr (by rw [hid]; omega)
  exact ⟨r', hr', hid'.trans hid, htrans hkeep hkeep'⟩

end

end

end Tracked

end CloudMonitor
