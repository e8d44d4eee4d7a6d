import CloudMonitor.Store.MemoryMap
import CloudMonitor.Store.Redis

/-!
# Redis keeps the same contract

While no call fails, the shared backend answers as the map with a time to live
does, so it answers as the in-process store: the two differ in how they round
the seconds a counter has left, and in nothing else.
-/

namespace CloudMonitor

open Fallible

namespace RedisClient

def call (client : RedisClient) (now : ℚ) :
    StoreCall String String → RedisServer.Op (StoreReply String ℤ)
  | .get key => do return .got (← client.get key now)
  | .set key value ttl => do
    client.set key value ttl now
    return .done
  | .contains key => do return .contained (← client.contains key now)
  | .delete key => do
    client.delete key
    return .done
  | .add key amount ttl => do
    let (value, left) ← client.add key amount ttl now
    return .counted value left

def step (client : RedisClient) (s : ℚ × RedisServer) (e : ℚ × StoreCall String String) :
    Except ApiError (StoreReply String ℤ) × (ℚ × RedisServer) :=
  let (reply, s') := (client.call e.1 e.2).run s.2
  (reply, (e.1, s'))

end RedisClient

namespace RedisServer

/-- The seconds a counter is said to have left. -/
def seconds (left : ℚ) : ℤ := max 1 ⌊left + 1 / 2⌋

def answered (r : StoreReply String ℚ) : Except ApiError (StoreReply String ℤ) :=
  .ok (r.map seconds)

/-- An entry of the map as the server has it. -/
def held (e : Entry (Content String) ℚ) : Entry String (WithTop ℚ) :=
  { value := e.value.shown toString, expires := (e.expires : WithTop ℚ) }

/-- The server has under the client's keys what the map has, and no key
without an expiry. -/
structure Serves (client : RedisClient) (s : RedisServer) (m : TtlMap String String ℚ) : Prop where
  holds : ∀ key, s.data (client.keyPrefix ++ key) = (m key).map held
  expiring : ∀ key e, s.data key = some e → e.expires ≠ ⊤

section
variable {client : RedisClient} {s : RedisServer} {m : TtlMap String String ℚ} {key : String}
  {ttl n : ℤ} {now x : ℚ} {e : Entry (Content String) ℚ}

theorem alive_held (now : ℚ) (o : Option (Entry (Content String) ℚ)) :
    alive (now : WithTop ℚ) (o.map held) = (alive now o).map held := by
  cases o with
  | none => rfl
  | some e =>
    by_cases h : now < e.expires
    · have h' : (now : WithTop ℚ) < (held e).expires := WithTop.coe_lt_coe.mpr h
      rw [Option.map_some, alive_some_of_lt h', alive_some_of_lt h, Option.map_some]
    · have hgone : alive now (some e) = none := by simpa [alive_eq_none] using h
      have hgone' : alive (now : WithTop ℚ) (some (held e)) = none := by
        simpa [alive_eq_none, held] using h
      rw [Option.map_some, hgone, hgone', Option.map_none]

theorem serves_new (client : RedisClient) : Serves client new TtlMap.empty where
  holds _ := rfl
  expiring _ _ h := nomatch h

theorem Serves.called (h : Serves client s m) : Serves client { s with calls := s.calls + 1 } m :=
  ⟨h.holds, h.expiring⟩

theorem Serves.lookup_run (h : Serves client s m) (key : String) (now : ℚ) :
    (lookup (client.keyPrefix ++ key) now).run s = (.ok ((m.look now key).map held), s) := by
  simp only [lookup, run_bind, run_get, run_pure, h.holds key, alive_held, TtlMap.look]

theorem Serves.write_run (h : Serves client s m) (key : String)
    (o : Option (Entry (Content String) ℚ)) :
    ∃ s', (write (client.keyPrefix ++ key) (o.map held)).run s = (.ok (), s') ∧
      Serves client s' (Function.update m key o) := by
  refine ⟨_, rfl, ?_, ?_⟩
  · intro k
    rcases eq_or_ne k key with rfl | hk
    · simp
    · have hne : client.keyPrefix ++ k ≠ client.keyPrefix ++ key :=
        fun h => hk ((String.append_right_inj _).mp h)
      simp only [Function.update_of_ne hne, Function.update_of_ne hk]
      exact h.holds k
  · intro k e he
    simp only at he
    rcases eq_or_ne k (client.keyPrefix ++ key) with rfl | hk
    · rw [Function.update_self, Option.map_eq_some_iff] at he
      obtain ⟨o', -, rfl⟩ := he
      exact WithTop.coe_ne_top
    · rw [Function.update_of_ne hk] at he
      exact h.expiring k e he

theorem Serves.set_run (h : Serves client s m) (httl : 0 < ttl) (key value : String) (now : ℚ)
    (c : Content String) (hc : c.shown toString = value) :
    ∃ s', (set (client.keyPrefix ++ key) value ttl now).run s = (.ok true, s') ∧
      Serves client s' (Function.update m key (some { value := c, expires := now + ttl })) := by
  obtain ⟨s', hrun, hs'⟩ := h.write_run key (some { value := c, expires := now + ttl })
  refine ⟨s', ?_, hs'⟩
  simp only [Option.map_some, held, hc] at hrun
  simp only [set, if_neg (not_le.mpr httl), run_bind, hrun, run_pure]

/-- After `SET NX` the counter is there, begun now or before. -/
theorem Serves.setNx_run (h : Serves client s m) (httl : 0 < ttl) (key : String) (now : ℚ)
    (hcount : ∀ e ∈ m.look now key, e.value.isCount) :
    ∃ s', (setNx (client.keyPrefix ++ key) (toString (0 : ℤ)) ttl now).run s = (.ok true, s') ∧
      Serves client s'
        (Function.update m key (some ((TtlMap.begun (ttl : ℚ) now (m key)).map .count))) := by
  cases hl : m.look now key with
  | none =>
    rw [TtlMap.begun_absent hl]
    obtain ⟨s', hrun, hs'⟩ := h.set_run httl key (toString (0 : ℤ)) now (.count 0) rfl
    refine ⟨s', ?_, hs'⟩
    simp only [setNx, if_neg (not_le.mpr httl), run_bind, h.lookup_run, hl, Option.map_none,
      Option.isSome_none, Bool.false_eq_true, if_false, hrun]
  | some e =>
    have hn := hcount e hl
    have hsame : some ((TtlMap.begun (ttl : ℚ) now (m key)).map Content.count) = m key := by
      rw [TtlMap.begun_live hl, (alive_eq_some.mp hl).1]
      cases e with
      | mk value expires =>
        cases value with
        | value v => simp [Content.isCount] at hn
        | count n => rfl
    rw [hsame, Function.update_eq_self]
    refine ⟨s, ?_, h⟩
    simp only [setNx, if_neg (not_le.mpr httl), run_bind, h.lookup_run, hl, Option.map_some,
      Option.isSome_some, if_true, run_pure]

theorem Serves.incrBy_run (h : Serves client s m)
    (hm : m key = some { value := .count n, expires := x }) (hlive : now < x) (amount : ℤ) :
    ∃ s', (incrBy (client.keyPrefix ++ key) amount now).run s = (.ok (some (n + amount)), s') ∧
      Serves client s'
        (Function.update m key (some { value := .count (n + amount), expires := x })) := by
  obtain ⟨s', hrun, hs'⟩ := h.write_run key (some { value := .count (n + amount), expires := x })
  refine ⟨s', ?_, hs'⟩
  have hl : m.look now key = some { value := .count n, expires := x } :=
    alive_eq_some.mpr ⟨hm, hlive⟩
  simp only [Option.map_some, held, Content.shown, Int.toString_eq_repr] at hrun
  simp [incrBy, h.lookup_run, hl, held, Content.shown, hrun]

theorem Serves.ttl_run (h : Serves client s m) (hm : m key = some e) (hlive : now < e.expires) :
    (RedisServer.ttl (client.keyPrefix ++ key) now).run s =
      (.ok ⌊e.expires - now + 1 / 2⌋, s) := by
  have hl : m.look now key = some e := alive_eq_some.mpr ⟨hm, hlive⟩
  simp only [RedisServer.ttl, run_bind, h.lookup_run, hl, Option.map_some]
  rfl

theorem healthy_run (x : Op α) (fallback : α) (s : RedisServer) :
    (client.healthy.attempt fallback x).run s = x.run { s with calls := s.calls + 1 } := by
  rw [attempt_run]
  rfl

theorem Serves.add_run (h : Serves client s m) (httl : 0 < ttl) (key : String) (amount : ℤ)
    (now : ℚ) (hcount : ∀ e ∈ m.look now key, e.value.isCount) :
    ∃ s', (client.healthy.add key amount ttl now).run s =
        (.ok ((TtlMap.bumped (ttl : ℚ) now amount (m key)).value,
          seconds ((TtlMap.begun (ttl : ℚ) now (m key)).expires - now)), s') ∧
      Serves client s' (Function.update m key
        (some ((TtlMap.bumped (ttl : ℚ) now amount (m key)).map .count))) := by
  have hlive : now < (TtlMap.begun (ttl : ℚ) now (m key)).expires :=
    TtlMap.lt_begun_expires (Int.cast_pos.mpr httl) (m key)
  obtain ⟨s₁, hset, h₁⟩ := h.called.setNx_run httl key now hcount
  obtain ⟨s₂, hincr, h₂⟩ := h₁.incrBy_run (Function.update_self ..) hlive amount
  have hrem := h₂.ttl_run (Function.update_self ..) hlive
  rw [Function.update_idem] at h₂
  refine ⟨s₂, ?_, h₂⟩
  rw [RedisClient.add, healthy_run]
  simp only [run_bind, RedisClient.healthy, hset, hincr, hrem, run_pure]
  rfl

theorem call_run (h : Serves client s m) (c : StoreCall String String) (hc : m.Allows now c) :
    ∃ s', (client.healthy.call now c).run s = (answered (m.call toString now c).1, s') ∧
      Serves client s' (m.call toString now c).2 := by
  cases c with
  | get key =>
    refine ⟨_, ?_, h.called⟩
    simp only [RedisClient.call, RedisClient.get, run_bind, healthy_run]
    simp only [RedisClient.healthy, h.called.lookup_run, run_pure, Option.map_map]
    rfl
  | set key value ttl =>
    obtain ⟨s', hrun, hs'⟩ := h.called.set_run hc key value now (.value value) rfl
    refine ⟨s', ?_, hs'⟩
    simp only [RedisClient.call, RedisClient.set, run_bind, healthy_run]
    simp only [RedisClient.healthy, hrun, run_pure]
    rfl
  | contains key =>
    refine ⟨_, ?_, h.called⟩
    simp only [RedisClient.call, RedisClient.contains, run_bind, healthy_run]
    simp only [RedisClient.healthy, h.called.lookup_run, run_pure, Option.isSome_map]
    rfl
  | delete key =>
    obtain ⟨s', hrun, hs'⟩ := h.called.write_run key none
    refine ⟨s', ?_, hs'⟩
    simp only [RedisClient.call, RedisClient.delete, run_bind, healthy_run]
    simp only [RedisClient.healthy, Option.map_none] at hrun ⊢
    simp only [hrun, run_pure]
    rfl
  | add key amount ttl =>
    obtain ⟨s', hrun, hs'⟩ := h.add_run hc.1 key amount now hc.2
    refine ⟨s', ?_, hs'⟩
    simp only [RedisClient.call, run_bind, hrun, run_pure]
    rfl

end

-- ---------------------------------------------------------------------------
-- The two backends
-- ---------------------------------------------------------------------------

/-- The same reply, up to a second of what a counter has left. -/
def Alike : Except ApiError (StoreReply String ℤ) → Except ApiError (StoreReply String ℤ) → Prop
  | .ok (.counted value left), .ok (.counted value' left') =>
    value = value' ∧ |left - left'| ≤ 1 ∧ 1 ≤ left ∧ 1 ≤ left'
  | .ok reply, .ok reply' => reply = reply'
  | _, _ => False

theorem seconds_near (left : ℚ) : |MemoryStore.seconds left - seconds left| ≤ 1 := by
  have h₁ := roundHalfEven_le_floor left
  have h₂ := floor_le_roundHalfEven left
  unfold MemoryStore.seconds seconds
  rw [abs_le]
  omega

theorem alike_answered (r : StoreReply String ℚ) : Alike (MemoryStore.answered r) (answered r) := by
  cases r with
  | counted value left =>
    exact ⟨rfl, seconds_near left, le_max_left _ _, le_max_left _ _⟩
  | _ => rfl

section
variable {start : ℚ} {events : List (ℚ × StoreCall String String)}

def reached (client : RedisClient) (start : ℚ) (events : List (ℚ × StoreCall String String)) :
    ℚ × RedisServer :=
  after client.step (start, new) events

def Simulates (client : RedisClient) (s : ℚ × TtlMap String String ℚ) (s' : ℚ × RedisServer) :
    Prop :=
  Serves client s'.2 s.2

theorem step_simulates (client : RedisClient) (s : ℚ × TtlMap String String ℚ)
    (s' : ℚ × RedisServer) (e : ℚ × StoreCall String String) (h : Simulates client s s')
    (hp : TtlMap.Proper s e) :
    answered (MemoryStore.mapStep s e).1 = (client.healthy.step s' e).1 ∧
      Simulates client (MemoryStore.mapStep s e).2 (client.healthy.step s' e).2 := by
  obtain ⟨t, hrun, ht⟩ := call_run h e.2 hp.2
  simp only [RedisClient.step, hrun]
  exact ⟨rfl, ht⟩

theorem run_simulates (client : RedisClient) (h : MemoryStore.ProperRun start events) :
    replies client.healthy.step (start, new) events =
        (replies MemoryStore.mapStep (start, TtlMap.empty) events).map answered ∧
      Serves client (reached client.healthy start events).2
        (after MemoryStore.mapStep (start, TtlMap.empty) events).2 := by
  have hstart : Simulates client (start, TtlMap.empty) (start, new) := serves_new client
  obtain ⟨hreplies, hend⟩ := replies_simulate (Q := fun r r' => answered r = r')
    (step_simulates client) hstart h
  refine ⟨?_, hend⟩
  rw [← List.forall₂_map_left_iff, List.forall₂_eq_eq_eq] at hreplies
  exact hreplies.symm

/-- Any calls get the same replies from the two backends, and the server never
has a key without an expiry. -/
theorem redis_refines_memory (client : RedisClient) (interval start : ℚ)
    (events : List (ℚ × StoreCall String String)) (h : MemoryStore.ProperRun start events) :
    List.Forall₂ Alike (replies (MemoryStore.step interval) (start, .new start) events)
        (replies client.healthy.step (start, new) events) ∧
      ∀ past, past <+: events →
        ∀ key e, (reached client.healthy start past).2.data key = some e → e.expires ≠ ⊤ := by
  constructor
  · rw [(MemoryStore.run_simulates interval h).1, (run_simulates client h).1,
      List.forall₂_map_left_iff, List.forall₂_map_right_iff]
    exact List.forall₂_same.mpr fun r _ => alike_answered r
  · rintro past ⟨later, rfl⟩
    exact (run_simulates client (Along.append.mp h).1).2.expiring

theorem redis_refines_memory_mixed :
    MemoryStore.ProperRun 0 MemoryStore.mixedCalls ∧
      List.Forall₂ Alike
        (replies (MemoryStore.step 60) (0, .new 0) MemoryStore.mixedCalls)
        (replies (RedisClient.step ⟨"cm:", fun _ => false⟩) (0, new) MemoryStore.mixedCalls) :=
  have h : MemoryStore.ProperRun 0 MemoryStore.mixedCalls := by decide +kernel
  ⟨h, (redis_refines_memory ⟨"cm:", fun _ => false⟩ 60 0 MemoryStore.mixedCalls h).1⟩

end

end RedisServer

end CloudMonitor
