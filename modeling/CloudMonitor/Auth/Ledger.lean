import CloudMonitor.Auth.RateLimit

/-!
# The ledger of the login counters

One tally for each key of the store. The four store calls of a login are the
ledger's `reserve` (twice), `clear` and `giveBack`, and the store follows the
ledger through each of them.
-/

namespace CloudMonitor

open Fallible MemoryStore

abbrev Env.window (env : Env) : ℚ := env.loginWindow

abbrev Ledger (ι : Type) : Type := String → Tally ι ℚ

namespace Ledger

section
variable {ι : Type} [DecidableEq ι]

def fresh : Ledger ι := fun _ => Tally.fresh

def reserve (env : Env) (now : ℚ) (i : ι) (key : String) (l : Ledger ι) : Ledger ι :=
  Function.update l key ((l key).reserve env.window now i)

def clear (now : ℚ) (key : String) (l : Ledger ι) : Ledger ι :=
  Function.update l key ((l key).clear now)

def giveBack (env : Env) (now : ℚ) (i : ι) (key : String) (l : Ledger ι) : Ledger ι :=
  Function.update l key ((l key).giveBack env.window now i)

def Sound (env : Env) (now : ℚ) (l : Ledger ι) : Prop := ∀ key, (l key).Sound env.window now

end

section
variable {ι : Type} {env : Env} {now now' : ℚ} {s : MemoryStore} {l : Ledger ι} {i : ι}
  {key k : String}

theorem reserve_self [DecidableEq ι] :
    l.reserve env now i key key = (l key).reserve env.window now i :=
  Function.update_self ..

theorem reserve_other [DecidableEq ι] (h : k ≠ key) : l.reserve env now i key k = l k :=
  Function.update_of_ne h ..

theorem clear_self : l.clear now key key = (l key).clear now := Function.update_self ..

theorem clear_other (h : k ≠ key) : l.clear now key k = l k := Function.update_of_ne h ..

theorem giveBack_self [DecidableEq ι] :
    l.giveBack env now i key key = (l key).giveBack env.window now i :=
  Function.update_self ..

theorem giveBack_other [DecidableEq ι] (h : k ≠ key) : l.giveBack env now i key k = l k :=
  Function.update_of_ne h ..

theorem reserve_slot [DecidableEq ι] {j : ι} (h : j ≠ i) :
    (l.reserve env now i key k).slot j = (l k).slot j := by
  by_cases hk : k = key
  · subst hk
    rw [reserve_self, Tally.reserve_slot_other h]
  · rw [reserve_other hk]

theorem clear_slot : (l.clear now key k).slot = (l k).slot := by
  by_cases hk : k = key
  · subst hk
    rw [clear_self]
    rfl
  · rw [clear_other hk]

theorem giveBack_slot [DecidableEq ι] : (l.giveBack env now i key k).slot = (l k).slot := by
  by_cases hk : k = key
  · subst hk
    rw [giveBack_self, Tally.giveBack_slot]
  · rw [giveBack_other hk]

theorem reserve_givenBack [DecidableEq ι] :
    (l.reserve env now i key k).givenBack = (l k).givenBack := by
  by_cases hk : k = key
  · subst hk
    rw [reserve_self, Tally.reserve_givenBack]
  · rw [reserve_other hk]

theorem clear_givenBack : (l.clear now key k).givenBack = (l k).givenBack := by
  by_cases hk : k = key
  · subst hk
    rw [clear_self]
    rfl
  · rw [clear_other hk]

theorem giveBack_givenBack [DecidableEq ι] {j : ι} (h : j ≠ i) :
    (l.giveBack env now i key k).givenBack j = (l k).givenBack j := by
  by_cases hk : k = key
  · subst hk
    rw [giveBack_self, Tally.giveBack_givenBack_other h]
  · rw [giveBack_other hk]

theorem sound_fresh : Sound env now (fresh : Ledger ι) := fun _ => Tally.Sound.fresh

theorem Sound.later (h : Sound env now l) (hle : now ≤ now') : Sound env now' l :=
  fun key => (h key).later hle

theorem Sound.reserve [DecidableEq ι] (h : Sound env now l) :
    Sound env now (l.reserve env now i key) := by
  intro k
  by_cases hk : k = key
  · subst hk
    rw [reserve_self]
    exact (h k).reserve
  · rw [reserve_other hk]
    exact h k

theorem Sound.clear (h : Sound env now l) : Sound env now (l.clear now key) := by
  intro k
  by_cases hk : k = key
  · subst hk
    rw [clear_self]
    exact (h k).clear
  · rw [clear_other hk]
    exact h k

theorem Sound.giveBack [DecidableEq ι] (h : Sound env now l) :
    Sound env now (l.giveBack env now i key) := by
  intro k
  by_cases hk : k = key
  · subst hk
    rw [giveBack_self]
    exact (h k).giveBack
  · rw [giveBack_other hk]
    exact h k

-- ---------------------------------------------------------------------------
-- The store follows
-- ---------------------------------------------------------------------------

theorem add_reserve [DecidableEq ι] (env : Env) (h : Follows now s l) (key : String) (i : ι) :
    ∃ retry s',
      (add key 1 env.loginWindow now).run s =
        (.ok ((l.reserve env now i key key).value, retry), s') ∧
      Follows now s' (l.reserve env now i key) := by
  rw [reserve_self]
  exact h.add key 1 env.loginWindow _ rfl

theorem delete_clear (h : Follows now s l) (key : String) :
    ∃ s', (delete key).run s = (.ok (), s') ∧ Follows now s' (l.clear now key) :=
  h.delete key

theorem add_giveBack [DecidableEq ι] (env : Env) (h : Follows now s l) (key : String) (i : ι) :
    ∃ r s', (add key (-1) env.loginWindow now).run s = (.ok r, s') ∧
      Follows now s' (l.giveBack env now i key) := by
  obtain ⟨retry, s', hrun, hf⟩ :=
    h.add key (-1) env.loginWindow ((l key).giveBack env.window now i) rfl
  exact ⟨_, s', hrun, hf⟩

end

end Ledger

end CloudMonitor
