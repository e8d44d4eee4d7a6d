import Mathlib.Order.Lattice

/-!
# Entries that expire

A stored entry is there before its expiry and gone from then on, so what a
lookup finds is `alive now` of what is stored. Dropping expired entries,
whenever that is done, changes no later lookup.
-/

namespace CloudMonitor

structure Entry (ν K : Type) where
  value : ν
  expires : K
  deriving DecidableEq

section
variable {κ ν ν' K : Type} [LinearOrder K] {s t : K} {o : Option (Entry ν K)} {e : Entry ν K}

def alive (now : K) (o : Option (Entry ν K)) : Option (Entry ν K) :=
  o.filter (fun e => now < e.expires)

/-- The map with the entries that have expired by `now` left out. -/
def sweep (now : K) (m : κ → Option (Entry ν K)) : κ → Option (Entry ν K) :=
  fun k => alive now (m k)

@[simp] theorem alive_none (now : K) : alive now (none : Option (Entry ν K)) = none := rfl

theorem alive_eq_some : alive t o = some e ↔ o = some e ∧ t < e.expires := by
  simp [alive, Option.filter_eq_some_iff]

theorem alive_some_of_lt (h : t < e.expires) : alive t (some e) = some e :=
  alive_eq_some.mpr ⟨rfl, h⟩

theorem alive_eq_none : alive t o = none ↔ ∀ e, o = some e → e.expires ≤ t := by
  simp [alive, Option.filter_eq_none_iff]

theorem alive_alive (h : s ≤ t) (o : Option (Entry ν K)) : alive t (alive s o) = alive t o := by
  cases o with
  | none => rfl
  | some e =>
    by_cases hs : s < e.expires
    · rw [alive_some_of_lt hs]
    · have he : e.expires ≤ s := not_lt.mp hs
      have hgone : alive s (some e) = none := by simpa [alive_eq_none] using he
      have hlater : alive t (some e) = none := by simpa [alive_eq_none] using he.trans h
      rw [hgone, hlater, alive_none]

theorem alive_none_of_le (h : s ≤ t) (hs : alive s o = none) : alive t o = none := by
  rw [← alive_alive h, hs, alive_none]

theorem alive_sweep (h : s ≤ t) (m : κ → Option (Entry ν K)) (k : κ) :
    alive t (sweep s m k) = alive t (m k) :=
  alive_alive h (m k)

def Entry.map (f : ν → ν') (e : Entry ν K) : Entry ν' K :=
  { value := f e.value, expires := e.expires }

theorem alive_map (f : ν → ν') (o : Option (Entry ν K)) :
    alive t (o.map (Entry.map f)) = (alive t o).map (Entry.map f) := by
  cases o with
  | none => rfl
  | some e =>
    by_cases h : t < e.expires <;> simp [alive, Entry.map, Option.filter_some, h]

end

end CloudMonitor
