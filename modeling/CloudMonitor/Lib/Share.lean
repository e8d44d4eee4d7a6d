import Mathlib.Algebra.BigOperators.Group.List.Basic
import Mathlib.Algebra.Order.Ring.Nat
import Mathlib.Data.List.Nodup
import Mathlib.Data.List.Perm.Basic

/-!
# Rows shared out

Each row goes to exactly one of several owners. Then the rows are those of the
owners put together, and a count or a sum over them is the sum of the owners'
counts or sums. `groups` are the owners that have any, as `GROUP BY` has them.
-/

namespace CloudMonitor

section
variable {α β : Type}

/-- Each row has exactly one owner. -/
def Shared (rows : List α) (owners : List β) (owns : β → α → Bool) : Prop :=
  ∀ r ∈ rows, ∃ b, owners.filter (owns · r) = [b]

variable {rows : List α} {owners : List β} {owns : β → α → Bool} {r : α} {b : β}

theorem Shared.filter (h : Shared rows owners owns) (p : α → Bool) :
    Shared (rows.filter p) owners owns :=
  fun r hr => h r (List.mem_of_mem_filter hr)

theorem Shared.exists_owner (h : Shared rows owners owns) (hr : r ∈ rows) :
    ∃ b ∈ owners, owns b r = true := by
  obtain ⟨b, hb⟩ := h r hr
  have hmem : b ∈ owners.filter (owns · r) := hb ▸ List.mem_singleton_self b
  exact ⟨b, List.mem_filter.mp hmem⟩

theorem flatMap_owner (hb : owners.filter (owns · r) = [b]) :
    (owners.flatMap fun b => if owns b r then [r] else []) = [r] := by
  have hall : ∀ bs : List β, (bs.flatMap fun b => if owns b r then [r] else []) =
      (bs.filter (owns · r)).map fun _ => r := by
    intro bs
    induction bs with
    | nil => rfl
    | cons b bs ih => cases h : owns b r <;> simp [h, ih]
  rw [hall, hb]
  rfl

theorem Shared.perm (h : Shared rows owners owns) :
    rows.Perm (owners.flatMap fun b => rows.filter (owns b)) := by
  induction rows with
  | nil => simp
  | cons r rows ih =>
    obtain ⟨b, hb⟩ := h r (by simp)
    have hsplit : (fun b => (r :: rows).filter (owns b)) =
        fun b => (if owns b r then [r] else []) ++ rows.filter (owns b) := by
      funext b
      cases hbr : owns b r <;> simp [hbr]
    have hrest := ih fun x hx => h x (.tail _ hx)
    rw [hsplit]
    refine .trans ?_ (List.flatMap_append_perm _ _ _)
    rw [flatMap_owner hb]
    exact hrest.cons r

theorem Shared.length (h : Shared rows owners owns) :
    rows.length = (owners.map fun b => (rows.filter (owns b)).length).sum := by
  rw [h.perm.length_eq, List.length_flatMap]

theorem sum_map_flatMap {M : Type} [AddCommMonoid M] (f : α → M) (g : β → List α)
    (owners : List β) :
    ((owners.flatMap g).map f).sum = (owners.map fun b => ((g b).map f).sum).sum := by
  induction owners with
  | nil => rfl
  | cons b owners ih =>
    rw [List.flatMap_cons, List.map_append, List.sum_append, ih, List.map_cons, List.sum_cons]

theorem Shared.sum {M : Type} [AddCommMonoid M] (h : Shared rows owners owns) (f : α → M) :
    (rows.map f).sum = (owners.map fun b => ((rows.filter (owns b)).map f).sum).sum := by
  rw [(h.perm.map f).sum_eq, sum_map_flatMap]

theorem Shared.disjoint (h : Shared rows owners owns) (hnodup : rows.Nodup) :
    owners.Pairwise fun b c => ∀ r, r ∈ rows.filter (owns b) → r ∉ rows.filter (owns c) := by
  have hflat := (List.nodup_flatMap.mp (h.perm.nodup_iff.mp hnodup)).2
  exact hflat.imp fun hdisjoint r hb hc => hdisjoint hb hc

end

-- ---------------------------------------------------------------------------
-- Groups
-- ---------------------------------------------------------------------------

/-- The keys of which there are any, with how many. -/
def groups {β : Type} (keys : List β) (n : β → ℕ) : List (β × ℕ) :=
  keys.filterMap fun b => if n b = 0 then none else some (b, n b)

section
variable {β : Type} {b : β} {keys : List β} {n : β → ℕ}

theorem groups_cons_zero (h : n b = 0) : groups (b :: keys) n = groups keys n := by
  simp [groups, h]

theorem groups_cons_pos (h : n b ≠ 0) : groups (b :: keys) n = (b, n b) :: groups keys n := by
  simp [groups, h]

theorem sum_groups {M : Type} [AddCommMonoid M] (keys : List β) (n : β → ℕ) (g : β → ℕ → M)
    (hzero : ∀ b, g b 0 = 0) :
    ((groups keys n).map fun e => g e.1 e.2).sum = (keys.map fun b => g b (n b)).sum := by
  induction keys with
  | nil => rfl
  | cons b keys ih =>
    by_cases h : n b = 0
    · rw [groups_cons_zero h, ih, List.map_cons, List.sum_cons, h, hzero, zero_add]
    · rw [groups_cons_pos h, List.map_cons, List.sum_cons, ih, List.map_cons, List.sum_cons]

theorem keys_groups (keys : List β) (n : β → ℕ) :
    (groups keys n).map Prod.fst = keys.filter (n · ≠ 0) := by
  induction keys with
  | nil => rfl
  | cons b keys ih =>
    by_cases h : n b = 0
    · rw [groups_cons_zero h, ih]
      simp [h]
    · rw [groups_cons_pos h, List.map_cons, ih]
      simp [h]

theorem lookup_groups {γ : Type} [DecidableEq β] (keys : List β) (n : β → ℕ) (f : β → ℕ → γ)
    (b : β) : ((groups keys n).map fun e => (e.1, f e.1 e.2)).lookup b =
      if b ∈ keys ∧ n b ≠ 0 then some (f b (n b)) else none := by
  induction keys with
  | nil => rfl
  | cons c keys ih =>
    by_cases hc : b = c
    · subst hc
      by_cases hn : n b = 0
      · rw [groups_cons_zero hn, ih]
        simp [hn]
      · rw [groups_cons_pos hn]
        simp [hn]
    · by_cases hn : n c = 0
      · rw [groups_cons_zero hn, ih]
        simp [hc]
      · rw [groups_cons_pos hn, List.map_cons, List.lookup_cons, beq_false_of_ne hc]
        simp [hc, ih]

end

end CloudMonitor
