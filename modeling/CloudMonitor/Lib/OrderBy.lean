import Mathlib.Data.List.Sort
import Mathlib.Order.OrderDual

/-!
# Ordering by keys

`ORDER BY` compares two rows by one key after another. Rows that tie on every
key may come in any order, and in another one the next time, so what a database
answers is some `Arrangement`. Where no two rows tie there is only one
(`Arrangement.arrange_eq`).
-/

namespace CloudMonitor

/-- A key, as its strict comparison of two rows. -/
abbrev SortKey (α : Type) : Type := α → α → Bool

namespace SortKey

def asc {α K : Type} [LinearOrder K] (f : α → K) : SortKey α := fun a b => f a < f b

def desc {α : Type} (key : SortKey α) : SortKey α := fun a b => key b a

/-- The key compares values of a linear order. -/
def Ranked {α : Type} (key : SortKey α) : Prop :=
  ∃ (K : Type) (_ : LinearOrder K) (f : α → K), ∀ a b, key a b = true ↔ f a < f b

section
variable {α K : Type} {key : SortKey α} {a b c : α}

theorem ranked_asc [LinearOrder K] (f : α → K) : Ranked (asc f) :=
  ⟨K, inferInstance, f, fun _ _ => decide_eq_true_iff⟩

theorem Ranked.desc (h : Ranked key) : Ranked key.desc := by
  obtain ⟨K, _, f, hf⟩ := h
  exact ⟨Kᵒᵈ, inferInstance, fun a => OrderDual.toDual (f a), fun a b => hf b a⟩

theorem Ranked.asymm (h : Ranked key) (hab : key a b = true) : key b a = false := by
  obtain ⟨K, _, f, hf⟩ := h
  rw [Bool.eq_false_iff, ne_eq, hf]
  exact lt_asymm ((hf a b).mp hab)

theorem Ranked.not_lt_trans (h : Ranked key) (hba : key b a = false) (hcb : key c b = false) :
    key c a = false := by
  obtain ⟨K, _, f, hf⟩ := h
  rw [Bool.eq_false_iff, ne_eq, hf, not_lt] at *
  exact hba.trans hcb

theorem Ranked.lt_of_lt_of_not_lt (h : Ranked key) (hab : key a b = true) (hcb : key c b = false) :
    key a c = true := by
  obtain ⟨K, _, f, hf⟩ := h
  rw [Bool.eq_false_iff, ne_eq, hf, not_lt] at hcb
  rw [hf] at hab ⊢
  exact hab.trans_le hcb

theorem Ranked.lt_of_not_lt_of_lt (h : Ranked key) (hba : key b a = false) (hbc : key b c = true) :
    key a c = true := by
  obtain ⟨K, _, f, hf⟩ := h
  rw [Bool.eq_false_iff, ne_eq, hf, not_lt] at hba
  rw [hf] at hbc ⊢
  exact hba.trans_lt hbc

end

end SortKey

open SortKey

-- ---------------------------------------------------------------------------
-- Several keys
-- ---------------------------------------------------------------------------

/-- The first key that tells the two rows apart puts `a` first. -/
def Before {α : Type} : List (SortKey α) → α → α → Prop
  | [], _, _ => False
  | key :: keys, a, b => key a b = true ∨ (key b a = false ∧ Before keys a b)

instance Before.decidable {α : Type} : ∀ (keys : List (SortKey α)) (a b : α),
    Decidable (Before keys a b)
  | [], _, _ => isFalse id
  | key :: keys, a, b =>
    have := Before.decidable keys a b
    inferInstanceAs (Decidable (key a b = true ∨ (key b a = false ∧ Before keys a b)))

section
variable {α : Type} {keys : List (SortKey α)} {key : SortKey α} {a b c : α} {rows : List α}

/-- More keys only tell apart what tied. -/
theorem Before.append (h : Before keys a b) (more : List (SortKey α)) :
    Before (keys ++ more) a b := by
  induction keys with
  | nil => exact h.elim
  | cons key keys ih => exact h.imp id (And.imp_right ih)

theorem before_asymm (hkeys : ∀ key ∈ keys, Ranked key) (hab : Before keys a b) :
    ¬Before keys b a := by
  induction keys with
  | nil => exact hab.elim
  | cons key keys ih =>
    rcases hab with hlt | ⟨hnot, hrest⟩
    · rintro (hgt | ⟨hnot, -⟩)
      · simp [(hkeys key (by simp)).asymm hlt] at hgt
      · simp [hlt] at hnot
    · rintro (hgt | ⟨-, hrest'⟩)
      · simp [hnot] at hgt
      · exact ih (fun k hk => hkeys k (.tail _ hk)) hrest hrest'

theorem not_before_trans (hkeys : ∀ key ∈ keys, Ranked key) (hba : ¬Before keys b a)
    (hcb : ¬Before keys c b) : ¬Before keys c a := by
  induction keys with
  | nil => exact id
  | cons key keys ih =>
    have hkey := hkeys key (by simp)
    simp only [Before, not_or, not_and, Bool.not_eq_true] at hba hcb ⊢
    refine ⟨hkey.not_lt_trans hba.1 hcb.1, fun hac => ?_⟩
    have hab : key a b = false := by
      by_contra h
      simp [hkey.lt_of_lt_of_not_lt (by simpa using h) hcb.1] at hac
    have hbc : key b c = false := by
      by_contra h
      simp [hkey.lt_of_not_lt_of_lt hba.1 (by simpa using h)] at hac
    exact ih (fun k hk => hkeys k (.tail _ hk)) (hba.2 hab) (hcb.2 hbc)

theorem not_before_cons (hkey : Ranked key) :
    ¬Before (key :: keys) b a ↔ key a b = true ∨ (key b a = false ∧ ¬Before keys b a) := by
  simp only [Before, not_or, not_and, Bool.not_eq_true]
  cases hab : key a b with
  | true => simp [hkey.asymm hab]
  | false => simp

/-- One key that tells two rows apart is enough. -/
theorem before_or_before (hmem : key ∈ keys) (h : key a b = true ∨ key b a = true) :
    Before keys a b ∨ Before keys b a := by
  induction keys with
  | nil => simp at hmem
  | cons head keys ih =>
    cases hab : head a b with
    | true => exact .inl (.inl hab)
    | false =>
      cases hba : head b a with
      | true => exact .inr (.inl hba)
      | false =>
        have htail : key ∈ keys := by
          rcases List.mem_cons.mp hmem with rfl | htail
          · simp [hab, hba] at h
          · exact htail
        rcases ih htail with hlt | hgt
        · exact .inl (.inr ⟨hba, hlt⟩)
        · exact .inr (.inr ⟨hab, hgt⟩)

/-- No two rows tie. -/
def Separates (keys : List (SortKey α)) (rows : List α) : Prop :=
  ∀ a ∈ rows, ∀ b ∈ rows, a = b ∨ Before keys a b ∨ Before keys b a

theorem Separates.perm {sorted : List α} (h : Separates keys rows) (hperm : sorted.Perm rows) :
    Separates keys sorted :=
  fun a ha b hb => h a (hperm.mem_iff.mp ha) b (hperm.mem_iff.mp hb)

/-- Without ties and repetitions the order is strict. -/
theorem Separates.strict (h : Separates keys rows) (hnodup : rows.Nodup)
    (hordered : rows.Pairwise fun a b => ¬Before keys b a) : rows.Pairwise (Before keys) := by
  refine (hordered.and hnodup).imp_of_mem fun ha hb hab => ?_
  rcases h _ ha _ hb with heq | hlt | hgt
  · exact absurd heq hab.2
  · exact hlt
  · exact absurd hgt hab.1

end

-- ---------------------------------------------------------------------------
-- What a database may answer
-- ---------------------------------------------------------------------------

/-- An order for every selection of rows, compatible with the keys. -/
structure Arrangement {α : Type} (keys : List (SortKey α)) where
  arrange : List α → List α
  perm : ∀ rows, (arrange rows).Perm rows
  ordered : ∀ rows, (arrange rows).Pairwise fun a b => ¬Before keys b a

section
variable {α : Type} {keys : List (SortKey α)} {rows sorted : List α} {le : α → α → Prop}
  [DecidableRel le]

theorem Arrangement.arrange_eq (answer : Arrangement keys) (hsep : Separates keys rows)
    (hperm : sorted.Perm rows) (hsorted : sorted.Pairwise fun a b => ¬Before keys b a) :
    answer.arrange rows = sorted := by
  refine ((answer.perm rows).trans hperm.symm).eq_of_pairwise ?_ (answer.ordered rows) hsorted
  intro a b ha hb hba hab
  have ha' : a ∈ rows := (answer.perm rows).mem_iff.mp ha
  exact (hsep a ha' b (hperm.mem_iff.mp hb)).resolve_right (not_or.mpr ⟨hab, hba⟩)

theorem insertionSort_ordered (hkeys : ∀ key ∈ keys, Ranked key)
    (hle : ∀ a b, le a b ↔ ¬Before keys b a) (rows : List α) :
    (rows.insertionSort le).Pairwise fun a b => ¬Before keys b a := by
  have htotal : Std.Total le := ⟨fun a b => by
    rw [hle, hle]
    by_cases h : Before keys b a
    · exact .inr (before_asymm hkeys h)
    · exact .inl h⟩
  have htrans : IsTrans α le := ⟨fun a b c hab hbc => by
    rw [hle] at *
    exact not_before_trans hkeys hab hbc⟩
  exact (rows.pairwise_insertionSort le).imp fun h => (hle _ _).mp h

/-- Rows in the order of more keys are in the order of the first of them. -/
def Arrangement.coarsen {more : List (SortKey α)} (answer : Arrangement (keys ++ more)) :
    Arrangement keys where
  arrange := answer.arrange
  perm := answer.perm
  ordered rows := (answer.ordered rows).imp fun h hba => h (hba.append more)

/-- Sorting is one arrangement. -/
def Arrangement.sort (keys : List (SortKey α)) (hkeys : ∀ key ∈ keys, Ranked key) :
    Arrangement keys where
  arrange rows := rows.insertionSort fun a b => ¬Before keys b a
  perm rows := List.perm_insertionSort _ rows
  ordered rows := insertionSort_ordered hkeys (fun _ _ => Iff.rfl) rows

end

end CloudMonitor
