import CloudMonitor.Store.MemoryMap
import Mathlib.Tactic.Linarith

/-!
# The in-process store does not hoard

An entry expires after the last purge. So once a write has looked whether a
purge is due, no entry has been dead for a whole purge interval.
-/

namespace CloudMonitor

open Fallible

/-- The time to live of what is written is positive. -/
def StoreCall.PositiveTtl : StoreCall κ ν → Prop
  | .set _ _ ttl => 0 < ttl
  | .add _ _ ttl => 0 < ttl
  | _ => True

instance : ∀ c : StoreCall κ ν, Decidable c.PositiveTtl
  | .set _ _ ttl => inferInstanceAs (Decidable (0 < ttl))
  | .add _ _ ttl => inferInstanceAs (Decidable (0 < ttl))
  | .get _ | .contains _ | .delete _ => isTrue trivial

def StoreCall.IsWrite : StoreCall κ ν → Prop
  | .set .. | .add .. => True
  | _ => False

namespace MemoryStore

-- ---------------------------------------------------------------------------
-- The invariant
-- ---------------------------------------------------------------------------

/-- Every entry, found or not, expires after the last purge, which is not
ahead of the clock. -/
structure Swept (now : ℚ) (s : MemoryStore) : Prop where
  purged : s.lastPurge ≤ now
  after : ∀ key e, s.data key = some e → s.lastPurge < e.expires

/-- A purge has just been made or is not due. -/
structure Clean (interval now : ℚ) (s : MemoryStore) : Prop extends Swept now s where
  recent : s.lastPurge = now ∨ now - s.lastPurge < interval

section
variable {interval now now' : ℚ} {s s' : MemoryStore} {key : String}

theorem swept_new (start : ℚ) : Swept start (new start) where
  purged := le_rfl
  after _ _ h := nomatch h

theorem Swept.later (h : Swept now s) (hle : now ≤ now') : Swept now' s where
  purged := h.purged.trans hle
  after := h.after

theorem Clean.expired (h : Clean interval now s) {e : Entry String ℚ} (he : s.data key = some e) :
    now < e.expires ∨ now - e.expires < interval := by
  have hafter := h.after key e he
  rcases h.recent with hnow | hrecent
  · exact .inl (hnow ▸ hafter)
  · exact .inr (by linarith)

-- ---------------------------------------------------------------------------
-- The steps of an operation
-- ---------------------------------------------------------------------------

/-- The invariant for entries kept or dropped, and a key's new entry. -/
theorem after_update (h : ∀ k e, s.data k = some e → s.lastPurge < e.expires)
    {o : Option (Entry String ℚ)} (ho : ∀ e ∈ o, s.lastPurge < e.expires) :
    ∀ k e, Function.update s.data key o k = some e → s.lastPurge < e.expires := by
  intro k e he
  rcases eq_or_ne k key with rfl | hk
  · rw [Function.update_self] at he
    exact ho e he
  · rw [Function.update_of_ne hk] at he
    exact h k e he

theorem Clean.kept (h : Clean interval now s) (hs : Swept now s')
    (hpurge : s'.lastPurge = s.lastPurge) : Clean interval now s' where
  toSwept := hs
  recent := hpurge ▸ h.recent

theorem put_swept (h : Swept now s) {o : Option (Entry String ℚ)}
    (ho : ∀ e ∈ o, s.lastPurge < e.expires) :
    Triple (put key o) s (fun _ s' => Swept now s' ∧ s'.lastPurge = s.lastPurge)
      (fun _ _ => False) :=
  .of_ok rfl ⟨⟨h.purged, after_update h.after ho⟩, rfl⟩

theorem purgeEvery_clean (h : Swept now s) :
    Triple (purgeEvery interval now) s (fun _ s' => Clean interval now s') (fun _ _ => False) := by
  refine Triple.get_bind ?_
  refine Triple.ite (fun hrecent => Triple.pure ⟨h, .inr hrecent⟩) (fun _ => Triple.of_ok rfl ?_)
  exact ⟨⟨le_rfl, fun key e he => (alive_eq_some.mp he).2⟩, .inl rfl⟩

theorem live_swept (h : Swept now s) :
    Triple (live key now) s
      (fun o s' => (Swept now s' ∧ s'.lastPurge = s.lastPurge) ∧ ∀ e ∈ o, s.lastPurge < e.expires)
      (fun _ _ => False) := by
  refine Triple.get_bind ?_
  cases hdata : s.data key with
  | none => exact Triple.pure ⟨⟨h, rfl⟩, by simp⟩
  | some entry =>
    refine Triple.ite (fun _ => ?_) fun _ => Triple.pure ⟨⟨h, rfl⟩, ?_⟩
    · refine Triple.bind (put_swept h (by simp)) fun _ s' hs' => Triple.pure ⟨hs', by simp⟩
    · rintro e ⟨⟩
      exact h.after key entry hdata

-- ---------------------------------------------------------------------------
-- The operations
-- ---------------------------------------------------------------------------

theorem get_swept (h : Swept now s) :
    Triple (get key now) s (fun _ s' => Swept now s') (fun _ _ => False) :=
  Triple.bind (live_swept h) fun _ _ hs' => Triple.pure hs'.1.1

theorem setEvery_clean (h : Swept now s) (value : String) {ttl : ℤ} (httl : 0 < ttl) :
    Triple (setEvery interval key value ttl now) s (fun _ s' => Clean interval now s')
      (fun _ _ => False) := by
  refine Triple.bind (purgeEvery_clean h) fun _ s₁ h₁ => ?_
  refine (put_swept h₁.toSwept ?_).mono (fun _ _ hs' => h₁.kept hs'.1 hs'.2) fun _ _ he => he
  rintro e ⟨⟩
  exact h₁.purged.trans_lt (lt_add_of_pos_right now (Int.cast_pos.mpr httl))

/-- Where a counter starts, its window ends after the last purge. -/
theorem started_expires {entry : Option (Entry String ℚ)} {window : ℚ}
    (hentry : ∀ e ∈ entry, s.lastPurge < e.expires) (hwindow : s.lastPurge < window) :
    Triple (started entry window) s (fun r s' => s' = s ∧ s.lastPurge < r.2)
      (fun _ s' => s' = s) := by
  cases entry with
  | none => exact Triple.pure ⟨rfl, hwindow⟩
  | some e =>
    have hint : Triple (int e.value) s (fun _ s' => s' = s) (fun _ s' => s' = s) := by
      unfold int
      split
      · exact Triple.pure rfl
      · exact Triple.raise rfl
    refine Triple.bind hint ?_
    rintro _ _ rfl
    exact Triple.pure ⟨rfl, hentry e rfl⟩

/-- Also an addition that fails has purged. -/
theorem addEvery_clean (h : Swept now s) (amount : ℤ) {ttl : ℤ} (httl : 0 < ttl) :
    Triple (addEvery interval key amount ttl now) s (fun _ s' => Clean interval now s')
      (fun _ s' => Clean interval now s') := by
  refine Triple.bind ((purgeEvery_clean h).mono (fun _ _ hs' => hs') fun _ _ he => he.elim) ?_
  intro _ s₁ h₁
  refine Triple.bind ((live_swept h₁.toSwept).mono (fun _ _ hs' => hs') fun _ _ he => he.elim) ?_
  rintro entry s₂ ⟨⟨h₂, hpurge⟩, hentry⟩
  have hclean : Clean interval now s₂ := h₁.kept h₂ hpurge
  have hwindow : s₂.lastPurge < now + ttl :=
    h₂.purged.trans_lt (lt_add_of_pos_right now (Int.cast_pos.mpr httl))
  refine Triple.bind ((started_expires (hpurge ▸ hentry) hwindow).mono (fun _ _ hs' => hs') ?_) ?_
  · rintro _ _ rfl
    exact hclean
  · rintro ⟨value, expires⟩ _ ⟨rfl, hexpires⟩
    refine Triple.bind ((put_swept h₂ ?_).mono (fun _ _ hs' => hs') fun _ _ he => he.elim) ?_
    · rintro e ⟨⟩
      exact hexpires
    · exact fun _ _ hs' => Triple.pure (hclean.kept hs'.1 hs'.2)

/-- Every call keeps the invariant, and a write looks at the purge. -/
theorem call_swept (interval : ℚ) (h : Swept now s) (c : StoreCall String String)
    (hc : c.PositiveTtl) :
    Swept now ((call interval now c).run s).2 ∧
      (c.IsWrite → Clean interval now ((call interval now c).run s).2) := by
  cases c with
  | get key =>
    refine ⟨?_, False.elim⟩
    rw [call, run_map_state]
    exact ((get_swept h).mono (fun _ _ hs' => hs') fun _ _ he => he.elim).state
  | contains key =>
    refine ⟨?_, False.elim⟩
    rw [call, run_map_state, contains, run_map_state]
    exact ((get_swept h).mono (fun _ _ hs' => hs') fun _ _ he => he.elim).state
  | delete key =>
    refine ⟨?_, False.elim⟩
    rw [call, run_map_state]
    exact ((put_swept h (by simp)).mono (fun _ _ hs' => hs'.1) fun _ _ he => he.elim).state
  | set key value ttl =>
    have hclean : Clean interval now ((call interval now (.set key value ttl)).run s).2 := by
      rw [call, run_map_state]
      exact ((setEvery_clean h value hc).mono (fun _ _ hs' => hs') fun _ _ he => he.elim).state
    exact ⟨hclean.toSwept, fun _ => hclean⟩
  | add key amount ttl =>
    have hclean : Clean interval now ((call interval now (.add key amount ttl)).run s).2 := by
      rw [call, run_map_state]
      exact (addEvery_clean h amount hc).state
    exact ⟨hclean.toSwept, fun _ => hclean⟩

end

-- ---------------------------------------------------------------------------
-- Runs
-- ---------------------------------------------------------------------------

/-- Calls at times that do not decrease, with positive times to live. -/
def PositiveRun (start : ℚ) (events : List (ℚ × StoreCall String String)) : Prop :=
  Along (fun s e => (step purgeIntervalSeconds s e).2)
    (fun s e => s.1 ≤ e.1 ∧ e.2.PositiveTtl) (start, new start) events

instance (start : ℚ) (events : List (ℚ × StoreCall String String)) :
    Decidable (PositiveRun start events) :=
  inferInstanceAs (Decidable (Along _ _ _ _))

/-- After a write every entry there is, found or not, is live or has expired
less than a purge interval ago: none that expired before that is kept. -/
theorem no_dead_entry_hoarded (start : ℚ) (events : List (ℚ × StoreCall String String))
    (h : PositiveRun start events) :
    Along (fun s e => (step purgeIntervalSeconds s e).2)
      (fun s e => e.2.IsWrite → ∀ key entry,
        ((step purgeIntervalSeconds s e).2.2.data key = some entry →
          e.1 < entry.expires ∨ e.1 - entry.expires < purgeIntervalSeconds) ∧
        (entry.expires + purgeIntervalSeconds ≤ e.1 →
          (step purgeIntervalSeconds s e).2.2.data key ≠ some entry))
      (start, new start) events := by
  refine Along.imp (P := fun s => Swept s.1 s.2) ?_ (swept_new start) h
  rintro ⟨past, s⟩ ⟨now, c⟩ hs ⟨hle, hc⟩
  obtain ⟨hswept, hclean⟩ := call_swept purgeIntervalSeconds (hs.later hle) c hc
  refine ⟨fun hwrite key entry => ⟨(hclean hwrite).expired, fun hdead hentry => ?_⟩, hswept⟩
  have hpositive : 0 < purgeIntervalSeconds := by decide
  rcases (hclean hwrite).expired hentry with hlive | hrecent
  · linarith
  · linarith

/-- A counter outlives its window at a write that makes no purge, and is gone
at the next that does. -/
def lateCalls : List (ℚ × StoreCall String String) :=
  [(1, .add "login:ip:10.0.0.1" 1 10), (60, .set "revoked:7f" "1" 30),
    (70, .set "diagnosis:7" "Disk full." 300), (119, .get "revoked:7f"),
    (125, .add "login:ip:10.0.0.1" 1 10)]

theorem no_dead_entry_hoarded_late :
    Along (fun s e => (step purgeIntervalSeconds s e).2)
      (fun s e => e.2.IsWrite → ∀ key entry,
        ((step purgeIntervalSeconds s e).2.2.data key = some entry →
          e.1 < entry.expires ∨ e.1 - entry.expires < purgeIntervalSeconds) ∧
        (entry.expires + purgeIntervalSeconds ≤ e.1 →
          (step purgeIntervalSeconds s e).2.2.data key ≠ some entry))
      (0, new 0) lateCalls :=
  no_dead_entry_hoarded 0 lateCalls (by decide +kernel)

end MemoryStore

end CloudMonitor
