import CloudMonitor.Lib.TtlMap
import CloudMonitor.Store.Memory

/-!
# The in-process store is an exact map

Whatever the purge interval, calls at times that do not decrease are answered
as the map with a time to live answers them. Neither the deletion on a read nor
the purge can be seen.
-/

namespace CloudMonitor

open Fallible

namespace MemoryStore

/-- The seconds a counter is said to have left. -/
def seconds (left : ℚ) : ℤ := max 1 (roundHalfEven left)

/-- The map's reply, its time left in whole seconds. -/
def answered (r : StoreReply String ℚ) : Except ApiError (StoreReply String ℤ) :=
  .ok (r.map seconds)

def call (interval now : ℚ) : StoreCall String String → Op (StoreReply String ℤ)
  | .get key => do return .got (← get key now)
  | .set key value ttl => do
    setEvery interval key value ttl now
    return .done
  | .contains key => do return .contained (← contains key now)
  | .delete key => do
    delete key
    return .done
  | .add key amount ttl => do
    let (value, left) ← addEvery interval key amount ttl now
    return .counted value left

def step (interval : ℚ) (s : ℚ × MemoryStore) (e : ℚ × StoreCall String String) :
    Except ApiError (StoreReply String ℤ) × (ℚ × MemoryStore) :=
  let (reply, s') := (call interval e.1 e.2).run s.2
  (reply, (e.1, s'))

/-- A lookup finds what the map has. -/
def Shows (now : ℚ) (s : MemoryStore) (m : TtlMap String String ℚ) : Prop :=
  ∀ key, s.look now key = (m.look now key).map (Entry.map (Content.shown toString))

section
variable {now now' : ℚ} {s s' : MemoryStore} {m : TtlMap String String ℚ} {key : String}
  {o : Option (Entry (Content String) ℚ)}

theorem shows_new (start : ℚ) : Shows now (new start) TtlMap.empty := fun _ => rfl

theorem Shows.later (h : Shows now s m) (hle : now ≤ now') : Shows now' s m := by
  intro key
  calc s.look now' key = alive now' (s.look now key) := (alive_look hle).symm
    _ = alive now' ((m.look now key).map (Entry.map (Content.shown toString))) := by rw [h key]
    _ = (alive now' (m.look now key)).map (Entry.map (Content.shown toString)) := alive_map _ _
    _ = (m.look now' key).map (Entry.map (Content.shown toString)) := by
      rw [TtlMap.look, alive_alive hle]
      rfl

theorem Shows.keeps (h : Shows now s m) (hk : Keeps now s s') : Shows now s' m :=
  fun key => (hk now le_rfl key).trans (h key)

theorem Shows.writes (h : Shows now s m)
    (hw : Writes now key (o.map (Entry.map (Content.shown toString))) s s') :
    Shows now s' (Function.update m key o) := by
  intro k
  rcases eq_or_ne k key with rfl | hk
  · rw [hw.same le_rfl, TtlMap.look_update_self, alive_map]
  · rw [hw.other le_rfl hk, TtlMap.look_update_of_ne m now hk, h k]

/-- The counter an `add` goes on from is the map's. -/
theorem Shows.counter (h : Shows now s m) (ttl : ℤ)
    (hcount : ∀ e ∈ m.look now key, e.value.isCount) :
    s.counter ttl now key = (TtlMap.begun (ttl : ℚ) now (m key)).map toString := by
  unfold MemoryStore.counter
  rw [h key]
  cases hl : m.look now key with
  | none =>
    rw [TtlMap.begun_absent hl]
    rfl
  | some e =>
    have hn := hcount e hl
    rw [TtlMap.begun_live hl]
    cases hv : e.value with
    | value v => simp [hv, Content.isCount] at hn
    | count n => simp [Entry.map, hv, Content.shown, Content.number]

theorem call_run (interval : ℚ) (h : Shows now s m) (c : StoreCall String String)
    (hc : m.Allows now c) :
    ∃ s', (call interval now c).run s = (answered (m.call toString now c).1, s') ∧
      Shows now s' (m.call toString now c).2 := by
  cases c with
  | get key =>
    obtain ⟨s', hrun, hk⟩ := get_run key now s
    refine ⟨s', ?_, h.keeps hk⟩
    simp only [call, run_bind, hrun, run_pure, h key, Option.map_map]
    rfl
  | set key value ttl =>
    obtain ⟨s', hrun, hw⟩ := setEvery_run interval key value ttl now s
    exact ⟨s', by simp only [call, run_bind, hrun, run_pure]; rfl, h.writes hw⟩
  | contains key =>
    obtain ⟨s', hrun, hk⟩ := contains_run key now s
    refine ⟨s', ?_, h.keeps hk⟩
    simp only [call, run_bind, hrun, run_pure, h key, Option.isSome_map]
    rfl
  | delete key =>
    obtain ⟨s', hrun, hw⟩ := delete_run key now s
    exact ⟨s', by simp only [call, run_bind, hrun, run_pure]; rfl, h.writes hw⟩
  | add key amount ttl =>
    have hstart := h.counter ttl hc.2
    obtain ⟨s', hrun, hw⟩ := addEvery_run (s := s) interval
      (TtlMap.begun (ttl : ℚ) now (m key)).value amount
      (by rw [hstart]; exact readInt?_repr _)
    rw [hstart] at hrun hw
    refine ⟨s', ?_, h.writes hw⟩
    simp only [call, run_bind, hrun, run_pure]
    rfl

end

-- ---------------------------------------------------------------------------
-- Runs
-- ---------------------------------------------------------------------------

abbrev mapStep : ℚ × TtlMap String String ℚ → ℚ × StoreCall String String →
    StoreReply String ℚ × (ℚ × TtlMap String String ℚ) :=
  TtlMap.step toString

/-- Calls from an empty map that are allowed, at times that do not decrease. -/
def ProperRun (start : ℚ) (events : List (ℚ × StoreCall String String)) : Prop :=
  Along (fun s e => (mapStep s e).2) TtlMap.Proper (start, TtlMap.empty) events

instance (start : ℚ) (events : List (ℚ × StoreCall String String)) :
    Decidable (ProperRun start events) :=
  inferInstanceAs (Decidable (Along _ _ _ _))

def reached (interval start : ℚ) (events : List (ℚ × StoreCall String String)) : ℚ × MemoryStore :=
  after (step interval) (start, new start) events

/-- What a lookup finds after some calls, at the time of the last one. -/
def found (interval start : ℚ) (events : List (ℚ × StoreCall String String)) (key : String) :
    Option (Entry String ℚ) :=
  (reached interval start events).2.look (reached interval start events).1 key

def Simulates (s : ℚ × TtlMap String String ℚ) (s' : ℚ × MemoryStore) : Prop :=
  s.1 = s'.1 ∧ Shows s.1 s'.2 s.2

section
variable {start : ℚ} {events : List (ℚ × StoreCall String String)}

theorem step_simulates (interval : ℚ) (s : ℚ × TtlMap String String ℚ) (s' : ℚ × MemoryStore)
    (e : ℚ × StoreCall String String) (h : Simulates s s') (hp : TtlMap.Proper s e) :
    answered (mapStep s e).1 = (step interval s' e).1 ∧
      Simulates (mapStep s e).2 (step interval s' e).2 := by
  obtain ⟨t, hrun, ht⟩ := call_run interval (h.2.later hp.1) e.2 hp.2
  simp only [step, hrun]
  exact ⟨rfl, rfl, ht⟩

theorem run_simulates (interval : ℚ) (h : ProperRun start events) :
    replies (step interval) (start, new start) events =
        (replies mapStep (start, TtlMap.empty) events).map answered ∧
      Simulates (after mapStep (start, TtlMap.empty) events) (reached interval start events) := by
  have hstart : Simulates (start, TtlMap.empty) (start, new start) := ⟨rfl, shows_new start⟩
  obtain ⟨hreplies, hend⟩ := replies_simulate (Q := fun r r' => answered r = r')
    (step_simulates interval) hstart h
  refine ⟨?_, hend⟩
  rw [← List.forall₂_map_left_iff, List.forall₂_eq_eq_eq] at hreplies
  exact hreplies.symm

/-- What is found is what the map has live. -/
theorem found_iff (interval : ℚ) (h : ProperRun start events) (key : String) (e : Entry String ℚ) :
    found interval start events key = some e ↔
      ∃ o, (after mapStep (start, TtlMap.empty) events).2 key = some o ∧
        (reached interval start events).1 < o.expires ∧ o.map (Content.shown toString) = e := by
  obtain ⟨-, htime, hshows⟩ := run_simulates interval h
  rw [found, ← htime, hshows key, Option.map_eq_some_iff]
  simp only [TtlMap.look, alive_eq_some, and_assoc]

/-- The store answers every call as the map does, and a window that is live
after some calls has the same end while it lasts, whatever is added. -/
theorem exact_ttl_map (interval start : ℚ) (events : List (ℚ × StoreCall String String))
    (h : ProperRun start events) :
    replies (step interval) (start, new start) events =
        (replies mapStep (start, TtlMap.empty) events).map answered ∧
      ∀ past later key e, events = past ++ later → (∀ c ∈ later, c.2.Spares key) →
        found interval start past key = some e → (reached interval start events).1 < e.expires →
        ∃ e', found interval start events key = some e' ∧ e'.expires = e.expires := by
  refine ⟨(run_simulates interval h).1, ?_⟩
  rintro past later key e rfl hspares hfound hlt
  obtain ⟨hpast, hlater⟩ := Along.append.mp h
  obtain ⟨o, ho, -, rfl⟩ := (found_iff interval hpast key e).mp hfound
  have hends : TtlMap.Ends key o.expires (after mapStep (start, TtlMap.empty) past) :=
    fun _ => ⟨o, ho, rfl⟩
  have hafter : TtlMap.Ends key o.expires (after mapStep (start, TtlMap.empty) (past ++ later)) := by
    rw [after_append]
    exact hends.after hspares hlater
  obtain ⟨-, htime, -⟩ := run_simulates interval h
  obtain ⟨o', ho', hexp⟩ := hafter (htime ▸ hlt)
  exact ⟨_, (found_iff interval h key _).mpr ⟨o', ho', hexp ▸ hlt, rfl⟩, hexp⟩

/-- Every kind of call, with a purge at each write and expiries met exactly. -/
def mixedCalls : List (ℚ × StoreCall String String) :=
  [(0, .add "login:ip:10.0.0.1" 1 10), (5, .set "diagnosis:7" "Disk full." 3),
    (15 / 2, .get "diagnosis:7"), (8, .contains "diagnosis:7"),
    (8, .add "login:ip:10.0.0.1" (-2) 10), (10, .add "login:ip:10.0.0.1" 1 10),
    (10, .add "diagnosis:7" 1 5), (11, .delete "diagnosis:7")]

theorem exact_ttl_map_mixed :
    ProperRun 0 mixedCalls ∧
      replies (step 0) (0, new 0) mixedCalls =
        (replies mapStep (0, TtlMap.empty) mixedCalls).map answered :=
  have h : ProperRun 0 mixedCalls := by decide +kernel
  ⟨h, (exact_ttl_map 0 0 mixedCalls h).1⟩

end

end MemoryStore

end CloudMonitor
