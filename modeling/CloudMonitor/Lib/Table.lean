import Mathlib.Data.List.Sort
import Mathlib.Data.Set.Defs

/-!
# Tables with a primary key

A table is a list of rows in strictly increasing order of their id, so two
rows never share an id and a table is determined by the rows it holds. A new
row gets an id chosen from the ids in use by a function that must avoid them.
-/

namespace CloudMonitor

class Row (α : Type) where
  id : α → Int

structure Table (α : Type) [Row α] where
  rows : List α
  sorted : rows.Pairwise (fun a b => Row.id a < Row.id b)

namespace Table

variable {α : Type} [Row α]

instance : Membership α (Table α) := ⟨fun t r => r ∈ t.rows⟩

theorem mem_def {t : Table α} {r : α} : r ∈ t ↔ r ∈ t.rows := Iff.rfl

instance [DecidableEq α] (t : Table α) (r : α) : Decidable (r ∈ t) :=
  inferInstanceAs (Decidable (r ∈ t.rows))

instance [DecidableEq α] : DecidableEq (Table α) := fun t u =>
  decidable_of_iff (t.rows = u.rows) (by cases t; cases u; simp)

def empty : Table α := ⟨[], .nil⟩

instance : EmptyCollection (Table α) := ⟨empty⟩

instance : Inhabited (Table α) := ⟨empty⟩

def ids (t : Table α) : List Int := t.rows.map Row.id

def find? (t : Table α) (i : Int) : Option α := t.rows.find? (fun r => Row.id r == i)

def insert (t : Table α) (r : α) (fresh : Row.id r ∉ t.ids) : Table α where
  rows := t.rows.orderedInsert (fun a b => Row.id a ≤ Row.id b) r
  sorted := by
    have hne : ∀ s ∈ t.rows, Row.id r ≠ Row.id s := by
      intro s hs h
      exact fresh (h ▸ List.mem_map_of_mem hs)
    have hle : t.rows.Pairwise (fun a b => Row.id a ≤ Row.id b) := t.sorted.imp Int.le_of_lt
    obtain ⟨rows, sorted⟩ := t
    simp only at hne hle ⊢
    clear fresh
    induction rows with
    | nil => simp
    | cons s rest ih =>
      have hs := hne s (by simp)
      rw [List.pairwise_cons] at sorted
      rw [List.orderedInsert_cons]
      split
      · next h =>
        have hlt : Row.id r < Row.id s := by omega
        refine .cons ?_ (List.pairwise_cons.mpr sorted)
        intro x hx
        rcases List.mem_cons.mp hx with rfl | hx
        · exact hlt
        · exact Int.lt_trans hlt (sorted.1 x hx)
      · next h =>
        refine .cons ?_ (ih sorted.2 (fun x hx => hne x (.tail _ hx)) (List.pairwise_cons.mp hle).2)
        intro x hx
        rcases (List.mem_orderedInsert _).mp hx with rfl | hx
        · omega
        · exact sorted.1 x hx

/-- Inserts a row under the id `pick` chooses from the ids in use. -/
def insertNew (t : Table α) (pick : List Int → Int) (fresh : ∀ ids, pick ids ∉ ids) (row : Int → α)
    (hid : ∀ i, Row.id (row i) = i) : Table α :=
  t.insert (row (pick t.ids)) (by rw [hid]; exact fresh _)

/-- Replaces the row that has the id of `r`; without one the table is unchanged. -/
def update (t : Table α) (r : α) : Table α where
  rows := t.rows.map (fun x => if Row.id x = Row.id r then r else x)
  sorted := by
    have hid : ∀ x : α, Row.id (if Row.id x = Row.id r then r else x) = Row.id x := by
      intro x
      split
      · next h => exact h.symm
      · rfl
    refine List.pairwise_map.mpr (t.sorted.imp ?_)
    intro a b hab
    rwa [hid, hid]

def delete (t : Table α) (p : α → Bool) : Table α where
  rows := t.rows.filter (fun r => !p r)
  sorted := t.sorted.filter _

-- ---------------------------------------------------------------------------
-- Membership
-- ---------------------------------------------------------------------------

@[simp] theorem not_mem_empty (r : α) : r ∉ (∅ : Table α) := List.not_mem_nil

@[simp] theorem mem_ids {t : Table α} {i : Int} : i ∈ t.ids ↔ ∃ r ∈ t, Row.id r = i := List.mem_map

@[simp] theorem mem_insert {t : Table α} {r s : α} (h : Row.id r ∉ t.ids) :
    s ∈ t.insert r h ↔ s = r ∨ s ∈ t := List.mem_orderedInsert _

@[simp] theorem mem_insertNew {t : Table α} {pick fresh} {row : Int → α} {hid} {s : α} :
    s ∈ t.insertNew pick fresh row hid ↔ s = row (pick t.ids) ∨ s ∈ t := mem_insert _

@[simp] theorem mem_delete {t : Table α} {p : α → Bool} {r : α} :
    r ∈ t.delete p ↔ r ∈ t ∧ p r = false := by
  simp [mem_def, delete]

theorem mem_update {t : Table α} {r s : α} :
    s ∈ t.update r ↔ (s = r ∧ Row.id r ∈ t.ids) ∨ (s ∈ t ∧ Row.id s ≠ Row.id r) := by
  simp only [mem_def, update, List.mem_map, mem_ids]
  constructor
  · rintro ⟨x, hx, rfl⟩
    split
    · next h => exact .inl ⟨rfl, x, hx, h⟩
    · next h => exact .inr ⟨hx, h⟩
  · rintro (⟨rfl, x, hx, h⟩ | ⟨hs, h⟩)
    · exact ⟨x, hx, if_pos h⟩
    · exact ⟨s, hs, if_neg h⟩

theorem insert_perm {t : Table α} {r : α} (h : Row.id r ∉ t.ids) :
    (t.insert r h).rows.Perm (r :: t.rows) := List.perm_orderedInsert _ _ _

theorem insertNew_perm {t : Table α} {pick fresh} {row : Int → α} {hid} :
    (t.insertNew pick fresh row hid).rows.Perm (row (pick t.ids) :: t.rows) := insert_perm _

theorem forall_mem_insert {t : Table α} {r : α} (h : Row.id r ∉ t.ids) {P : α → Prop} (hr : P r)
    (ht : ∀ s ∈ t, P s) : ∀ s ∈ t.insert r h, P s := by
  intro s hs
  rcases (mem_insert h).mp hs with rfl | hs
  · exact hr
  · exact ht s hs

theorem forall_mem_update {t : Table α} {r : α} {P : α → Prop} (hr : P r) (ht : ∀ s ∈ t, P s) :
    ∀ s ∈ t.update r, P s := by
  intro s hs
  rcases mem_update.mp hs with ⟨rfl, -⟩ | ⟨hs, -⟩
  · exact hr
  · exact ht s hs

theorem forall_mem_delete {t : Table α} {p : α → Bool} {P : α → Prop} (ht : ∀ s ∈ t, P s) :
    ∀ s ∈ t.delete p, P s :=
  fun s hs => ht s (mem_delete.mp hs).1

theorem mem_ids_insert {t : Table α} {r : α} (h : Row.id r ∉ t.ids) {i : Int} :
    i ∈ (t.insert r h).ids ↔ i = Row.id r ∨ i ∈ t.ids := by
  simp only [mem_ids, mem_insert]
  constructor
  · rintro ⟨s, rfl | hs, rfl⟩
    · exact .inl rfl
    · exact .inr ⟨s, hs, rfl⟩
  · rintro (rfl | ⟨s, hs, rfl⟩)
    · exact ⟨r, .inl rfl, rfl⟩
    · exact ⟨s, .inr hs, rfl⟩

@[simp] theorem mem_ids_update {t : Table α} {r : α} {i : Int} :
    i ∈ (t.update r).ids ↔ i ∈ t.ids := by
  simp only [ids, update, List.map_map]
  have hid : Row.id ∘ (fun x => if Row.id x = Row.id r then r else x) = (Row.id : α → Int) := by
    funext x
    simp only [Function.comp_apply]
    split
    · next h => exact h.symm
    · rfl
  rw [hid]

theorem unique {t : Table α} {r s : α} (hr : r ∈ t) (hs : s ∈ t) (h : Row.id r = Row.id s) :
    r = s := by
  obtain ⟨rows, sorted⟩ := t
  simp only [mem_def] at hr hs
  induction sorted with
  | nil => simp at hr
  | cons hlt _ ih =>
    rcases List.mem_cons.mp hr with rfl | hr' <;> rcases List.mem_cons.mp hs with rfl | hs'
    · rfl
    · exact absurd h (Int.ne_of_lt (hlt s hs'))
    · exact absurd h.symm (Int.ne_of_lt (hlt r hr'))
    · exact ih hr' hs'

/-- An update concerns the row it replaces and the one it puts there. -/
theorem mem_update_frame {t : Table α} {r old s : α} (hold : old ∈ t) (hid : Row.id r = Row.id old)
    (hr : s ≠ r) (ho : s ≠ old) : s ∈ t.update r ↔ s ∈ t := by
  rw [mem_update]
  constructor
  · rintro (⟨hsr, -⟩ | ⟨hs, -⟩)
    · exact absurd hsr hr
    · exact hs
  · intro hs
    exact .inr ⟨hs, fun h => ho (unique hs hold (h.trans hid))⟩

theorem nodup (t : Table α) : t.rows.Nodup := by
  refine t.sorted.imp ?_
  rintro a _ h rfl
  exact Int.lt_irrefl _ h

theorem find?_eq_some {t : Table α} {i : Int} {r : α} :
    t.find? i = some r ↔ r ∈ t ∧ Row.id r = i := by
  constructor
  · intro h
    exact ⟨List.mem_of_find?_eq_some h, by simpa using List.find?_some h⟩
  · rintro ⟨hr, rfl⟩
    cases h : t.find? (Row.id r) with
    | none => simpa using List.find?_eq_none.mp h r hr
    | some s =>
      have hs : Row.id s = Row.id r := by simpa using List.find?_some h
      rw [unique (List.mem_of_find?_eq_some h) hr hs]

theorem find?_eq_none {t : Table α} {i : Int} : t.find? i = none ↔ i ∉ t.ids := by
  simp [find?, mem_ids, mem_def]

theorem find?_congr {t u : Table α} {i : Int} (h : ∀ r, Row.id r = i → (r ∈ t ↔ r ∈ u)) :
    t.find? i = u.find? i := by
  refine Option.ext fun r => ?_
  rw [find?_eq_some, find?_eq_some]
  exact and_congr_left (h r)

theorem find?_insert {t : Table α} {r : α} (h : Row.id r ∉ t.ids) :
    (t.insert r h).find? = Function.update t.find? (Row.id r) (some r) := by
  funext i
  by_cases hi : i = Row.id r
  · subst hi
    rw [Function.update_self]
    exact find?_eq_some.mpr ⟨(mem_insert h).mpr (.inl rfl), rfl⟩
  · rw [Function.update_of_ne hi]
    refine find?_congr fun s hs => ?_
    rw [mem_insert]
    refine or_iff_right ?_
    rintro rfl
    exact hi hs.symm

theorem find?_insertNew {t : Table α} {pick fresh} {row : Int → α} {hid} :
    (t.insertNew pick fresh row hid).find? =
      Function.update t.find? (pick t.ids) (some (row (pick t.ids))) := by
  rw [insertNew, find?_insert, hid]

theorem find?_update {t : Table α} {r : α} (h : Row.id r ∈ t.ids) :
    (t.update r).find? = Function.update t.find? (Row.id r) (some r) := by
  funext i
  by_cases hi : i = Row.id r
  · subst hi
    rw [Function.update_self]
    exact find?_eq_some.mpr ⟨mem_update.mpr (.inl ⟨rfl, h⟩), rfl⟩
  · rw [Function.update_of_ne hi]
    refine find?_congr fun s hs => ?_
    rw [mem_update]
    constructor
    · rintro (⟨rfl, -⟩ | ⟨hmem, -⟩)
      · exact absurd hs.symm hi
      · exact hmem
    · exact fun hmem => .inr ⟨hmem, fun heq => hi (hs.symm.trans heq)⟩

theorem ext_mem {t u : Table α} (h : ∀ r, r ∈ t ↔ r ∈ u) : t = u := by
  have hp : t.rows.Perm u.rows := (List.perm_ext_iff_of_nodup t.nodup u.nodup).mpr h
  have he : t.rows = u.rows := hp.eq_of_pairwise
    (fun a b _ _ hab hba => absurd hab (Int.not_lt.mpr (Int.le_of_lt hba))) t.sorted u.sorted
  cases t; cases u; simpa using he

-- ---------------------------------------------------------------------------
-- Selections
-- ---------------------------------------------------------------------------

/-- Deleting the rows by the ids they were loaded under. -/
theorem delete_loaded (t : Table α) (p : α → Bool) :
    t.delete (fun r => ((t.rows.filter p).map Row.id).contains (Row.id r)) = t.delete p := by
  refine ext_mem fun r => ?_
  rw [mem_delete, mem_delete]
  refine and_congr_right fun hr => ?_
  have hloaded : Row.id r ∈ (t.rows.filter p).map Row.id ↔ p r = true := by
    simp only [List.mem_map, List.mem_filter]
    constructor
    · rintro ⟨s, ⟨hs, hp⟩, hid⟩
      rwa [← unique hs hr hid]
    · intro hp
      exact ⟨r, ⟨hr, hp⟩, rfl⟩
  simp only [List.contains_eq_mem, decide_eq_false_iff_not, hloaded, Bool.not_eq_true]

theorem filter_eq_singleton {t : Table α} {p : α → Bool} {r : α} (hr : r ∈ t) (hp : p r = true)
    (honly : ∀ s ∈ t, p s = true → s = r) : t.rows.filter p = [r] := by
  refine List.perm_singleton.mp ((List.perm_ext_iff_of_nodup (t.nodup.filter _)
    (List.nodup_singleton r)).mpr ?_)
  intro s
  simp only [List.mem_filter, List.mem_singleton]
  constructor
  · rintro ⟨hs, hps⟩
    exact honly s hs hps
  · rintro rfl
    exact ⟨hr, hp⟩

theorem filter_id (t : Table α) (i : Int) :
    t.rows.filter (fun r => i == Row.id r) = (t.find? i).toList := by
  cases h : t.find? i with
  | none =>
    rw [find?_eq_none] at h
    simp only [Option.toList_none, List.filter_eq_nil_iff, beq_iff_eq]
    rintro r hr rfl
    exact h (mem_ids.mpr ⟨r, hr, rfl⟩)
  | some r =>
    obtain ⟨hr, rfl⟩ := find?_eq_some.mp h
    exact filter_eq_singleton hr (by simp) fun s hs hid => unique hs hr (beq_iff_eq.mp hid).symm

theorem filter_congr_mem {t u : Table α} {p : α → Bool}
    (h : ∀ r, p r = true → (r ∈ t ↔ r ∈ u)) : t.rows.filter p = u.rows.filter p := by
  have := ext_mem (t := t.delete (fun r => !p r)) (u := u.delete (fun r => !p r))
    (fun r => by
      simp only [mem_delete, Bool.not_eq_eq_eq_not, Bool.not_false]
      exact ⟨fun ⟨hr, hp⟩ => ⟨(h r hp).mp hr, hp⟩, fun ⟨hr, hp⟩ => ⟨(h r hp).mpr hr, hp⟩⟩)
  simpa [delete] using congrArg Table.rows this

end Table

end CloudMonitor
