import CloudMonitor.Lib.Expiring
import CloudMonitor.Lib.Fallible
import CloudMonitor.Lib.Format
import CloudMonitor.Session
import Mathlib.Algebra.Order.Monoid.WithTop

/-!
# The Redis backend

The server holds text under keys that may have an expiry; a key is gone from
that instant on. Any call of the client may fail, and then has no effect and
answers as if nothing were stored. What the login counters are is said by
`counters`.
-/

namespace CloudMonitor

open Fallible

/-- What the server holds, and how many calls the client has made. -/
structure RedisServer where
  data : String → Option (Entry String (WithTop ℚ))
  calls : ℕ

structure RedisClient where
  keyPrefix : String
  fails : ℕ → Bool

def RedisClient.healthy (client : RedisClient) : RedisClient :=
  { client with fails := fun _ => false }

namespace RedisServer

def new : RedisServer := { data := fun _ => none, calls := 0 }

abbrev Op : Type → Type := Fallible RedisServer ApiError

def lookup (key : String) (now : ℚ) : Op (Option (Entry String (WithTop ℚ))) := do
  return alive (now : WithTop ℚ) ((← get).data key)

def write (key : String) (o : Option (Entry String (WithTop ℚ))) : Op Unit :=
  modify fun s => { s with data := Function.update s.data key o }

/-- `SET key value EX ttl`; a time that is not positive is an error. -/
def set (key value : String) (ttl : ℤ) (now : ℚ) : Op Bool := do
  if ttl ≤ 0 then
    return false
  else
    write key (some { value := value, expires := ((now + ttl : ℚ) : WithTop ℚ) })
    return true

/-- `SET key value EX ttl NX`. -/
def setNx (key value : String) (ttl : ℤ) (now : ℚ) : Op Bool := do
  if ttl ≤ 0 then
    return false
  else if (← lookup key now).isSome then
    return true
  else
    set key value ttl now

/-- `INCRBY`: keeps the expiry; an error on what is no number. -/
def incrBy (key : String) (amount : ℤ) (now : ℚ) : Op (Option ℤ) := do
  let entry := (← lookup key now).getD { value := toString (0 : ℤ), expires := ⊤ }
  match readInt? entry.value with
  | none => return none
  | some n =>
    write key (some { value := toString (n + amount), expires := entry.expires })
    return some (n + amount)

/-- `TTL`: whole seconds, rounded; `-1` without an expiry and `-2` without the key. -/
def ttl (key : String) (now : ℚ) : Op ℤ := do
  match ← lookup key now with
  | none => return -2
  | some entry => return match entry.expires with
    | none => -1
    | some t => ⌊t - now + 1 / 2⌋

end RedisServer

namespace RedisClient

open RedisServer

/-- `try: … except RedisError: …`. -/
def attempt (client : RedisClient) (fallback : α) (x : Op α) : Op α := do
  let n := (← Fallible.get).calls
  modify fun s => { s with calls := s.calls + 1 }
  if client.fails n then return fallback else x

def get (client : RedisClient) (key : String) (now : ℚ) : Op (Option String) :=
  client.attempt none do
    return (← lookup (client.keyPrefix ++ key) now).map Entry.value

def set (client : RedisClient) (key value : String) (ttl : ℤ) (now : ℚ) : Op Unit :=
  client.attempt () do
    let _ ← RedisServer.set (client.keyPrefix ++ key) value ttl now

def contains (client : RedisClient) (key : String) (now : ℚ) : Op Bool :=
  client.attempt false do
    return (← lookup (client.keyPrefix ++ key) now).isSome

def delete (client : RedisClient) (key : String) : Op Unit :=
  client.attempt () (write (client.keyPrefix ++ key) none)

/-- One pipeline: an error of one command does not stop the others, and is
raised when all are done. -/
def add (client : RedisClient) (key : String) (amount ttl : ℤ) (now : ℚ) : Op (ℤ × ℤ) :=
  client.attempt (0, 0) do
    let fullKey := client.keyPrefix ++ key
    let ok ← setNx fullKey (toString (0 : ℤ)) ttl now
    let value ← incrBy fullKey amount now
    let remaining ← RedisServer.ttl fullKey now
    match ok, value with
    | true, some value => return (value, max 1 remaining)
    | _, _ => return (0, 0)

end RedisClient

-- ---------------------------------------------------------------------------
-- Counters
-- ---------------------------------------------------------------------------

/-- A counter as the server holds it, expired or not. -/
abbrev RedisCounter : Type := Option (Entry ℤ (WithTop ℚ))

namespace RedisCounter

def begun (window now : ℚ) (o : RedisCounter) : Entry ℤ (WithTop ℚ) :=
  (alive (now : WithTop ℚ) o).getD { value := 0, expires := ((now + window : ℚ) : WithTop ℚ) }

def bump (window now : ℚ) (amount : ℤ) (o : RedisCounter) : Entry ℤ (WithTop ℚ) :=
  { begun window now o with value := (begun window now o).value + amount }

def count (now : ℚ) (o : RedisCounter) : ℤ := ((alive (now : WithTop ℚ) o).map Entry.value).getD 0

end RedisCounter

section
variable {client : RedisClient} {s s' : RedisServer} {m : String → RedisCounter} {key : String}
  {ttl amount : ℤ} {now window : ℚ}

/-- Under every key of the client there is the number `m` has, or nothing. -/
def RedisServer.Shows (client : RedisClient) (s : RedisServer) (m : String → RedisCounter) :
    Prop :=
  ∀ key, s.data (client.keyPrefix ++ key) = (m key).map (Entry.map toString)

/-- The live counter a key of the client stands for. -/
def RedisClient.counter (client : RedisClient) (s : RedisServer) (now : ℚ) (key : String) :
    RedisCounter :=
  (alive (now : WithTop ℚ) (s.data (client.keyPrefix ++ key))).bind fun e =>
    (readInt? e.value).map fun n => { value := n, expires := e.expires }

namespace RedisServer

theorem shows_new (client : RedisClient) : Shows client new fun _ => none := fun _ => rfl

theorem Shows.counter (h : Shows client s m) :
    client.counter s now key = alive (now : WithTop ℚ) (m key) := by
  rw [RedisClient.counter, h key, alive_map]
  cases alive (now : WithTop ℚ) (m key) with
  | none => rfl
  | some e => simp [Entry.map]

theorem Shows.write (h : Shows client s m) (o : RedisCounter) (n : ℕ) :
    Shows client
      { data := Function.update s.data (client.keyPrefix ++ key) (o.map (Entry.map toString))
        calls := n } (Function.update m key o) := by
  intro k
  by_cases hk : k = key
  · subst hk
    simp
  · have hne : client.keyPrefix ++ k ≠ client.keyPrefix ++ key :=
      fun h => hk ((String.append_right_inj _).mp h)
    simp only [Function.update_of_ne hne, Function.update_of_ne hk]
    exact h k

theorem write_run (hs : Shows client s m) (key : String) (o : RedisCounter) :
    ∃ s', (write (client.keyPrefix ++ key) (o.map (Entry.map toString))).run s = (.ok (), s') ∧
      s'.calls = s.calls ∧ Shows client s' (Function.update m key o) :=
  ⟨_, rfl, rfl, hs.write o s.calls⟩

theorem attempt_run (fallback : α) (x : Op α) :
    (client.attempt fallback x).run s =
      if client.fails s.calls then (.ok fallback, { s with calls := s.calls + 1 })
      else x.run { s with calls := s.calls + 1 } := by
  simp only [RedisClient.attempt, run_bind, run_get, run_modify]
  split <;> rfl

theorem failed_run (fallback : α) (x : Op α) (h : client.fails s.calls = true) :
    (client.attempt fallback x).run s = (.ok fallback, { s with calls := s.calls + 1 }) := by
  rw [attempt_run, if_pos h]

theorem delete_run (hs : Shows client s m) (h : client.fails s.calls = false) (key : String) :
    ∃ s', (client.delete key).run s = (.ok (), s') ∧ s'.calls = s.calls + 1 ∧
      Shows client s' (Function.update m key none) := by
  refine ⟨_, by rw [RedisClient.delete, attempt_run, h]; rfl, rfl, ?_⟩
  exact hs.write none _

theorem begun_live (hw : 0 < window) (now : ℚ) (o : RedisCounter) :
    (now : WithTop ℚ) < (RedisCounter.begun window now o).expires := by
  unfold RedisCounter.begun
  cases h : alive (now : WithTop ℚ) o with
  | none => exact WithTop.coe_lt_coe.mpr (lt_add_of_pos_right now hw)
  | some e => exact (alive_eq_some.mp h).2

theorem lookup_run (hs : Shows client s m) (key : String) (now : ℚ) :
    (lookup (client.keyPrefix ++ key) now).run s =
      (.ok ((alive (now : WithTop ℚ) (m key)).map (Entry.map toString)), s) := by
  simp [lookup, hs key, alive_map]

theorem setNx_run (hs : Shows client s m) (httl : 0 < ttl) (key : String) (now : ℚ) :
    ∃ s', (setNx (client.keyPrefix ++ key) (toString (0 : ℤ)) ttl now).run s = (.ok true, s') ∧
      s'.calls = s.calls ∧
      Shows client s' (Function.update m key (some (RedisCounter.begun ttl now (m key)))) := by
  have hpos : ¬ttl ≤ 0 := not_le.mpr httl
  cases hlive : alive (now : WithTop ℚ) (m key) with
  | none =>
    have hbegun : RedisCounter.begun ttl now (m key) =
        { value := 0, expires := ((now + ttl : ℚ) : WithTop ℚ) } := by
      simp [RedisCounter.begun, hlive]
    rw [hbegun]
    obtain ⟨s', hrun, hw⟩ :=
      write_run hs key (some { value := 0, expires := ((now + ttl : ℚ) : WithTop ℚ) })
    refine ⟨s', ?_, hw⟩
    simp only [Option.map_some, Entry.map] at hrun
    simp only [setNx, set, hpos, if_false, run_bind, lookup_run hs, hlive, Option.map_none,
      Option.isSome_none, Bool.false_eq_true, hrun, run_pure]
  | some e =>
    have hsame : some (RedisCounter.begun ttl now (m key)) = m key := by
      rw [RedisCounter.begun, hlive, (alive_eq_some.mp hlive).1]
      rfl
    rw [hsame, Function.update_eq_self]
    exact ⟨s, by simp [setNx, hpos, lookup_run hs, hlive], rfl, hs⟩

theorem incrBy_run (hs : Shows client s m) {e : Entry ℤ (WithTop ℚ)} (hm : m key = some e)
    (hlive : (now : WithTop ℚ) < e.expires) (amount : ℤ) :
    ∃ s', (incrBy (client.keyPrefix ++ key) amount now).run s =
        (.ok (some (e.value + amount)), s') ∧ s'.calls = s.calls ∧
      Shows client s' (Function.update m key (some { e with value := e.value + amount })) := by
  obtain ⟨s', hrun, hw⟩ := write_run hs key (some { e with value := e.value + amount })
  refine ⟨s', ?_, hw⟩
  simp only [Option.map_some, Entry.map, Int.toString_eq_repr] at hrun
  simp [incrBy, lookup_run hs, hm, alive_some_of_lt hlive, Entry.map, hrun]

theorem ttl_run (key : String) (now : ℚ) (s : RedisServer) :
    ∃ r, (RedisServer.ttl key now).run s = (.ok r, s) := by
  simp only [RedisServer.ttl, lookup, run_bind, run_get, run_pure]
  split <;> exact ⟨_, rfl⟩

theorem add_run (hs : Shows client s m) (h : client.fails s.calls = false) (httl : 0 < ttl)
    (key : String) (amount : ℤ) (now : ℚ) :
    ∃ r s', (client.add key amount ttl now).run s =
        (.ok ((RedisCounter.bump ttl now amount (m key)).value, r), s') ∧
      s'.calls = s.calls + 1 ∧
      Shows client s'
        (Function.update m key (some (RedisCounter.bump ttl now amount (m key)))) := by
  obtain ⟨s₁, hset, hc₁, hs₁⟩ := setNx_run (s := { s with calls := s.calls + 1 }) hs httl key now
  obtain ⟨s₂, hincr, hc₂, hs₂⟩ := incrBy_run hs₁ (Function.update_self key _ _)
    (begun_live (Int.cast_pos.mpr httl) now _) amount
  obtain ⟨r, httl⟩ := ttl_run (client.keyPrefix ++ key) now s₂
  refine ⟨max 1 r, s₂, ?_, hc₂.trans hc₁, ?_⟩
  · rw [RedisClient.add, attempt_run, h]
    simp only [Bool.false_eq_true, if_false, run_bind, hset, hincr, httl, run_pure,
      RedisCounter.bump]
  · rw [Function.update_idem] at hs₂
    exact hs₂

theorem add_failed (h : client.fails s.calls = true) (key : String) (amount ttl : ℤ) (now : ℚ) :
    (client.add key amount ttl now).run s = (.ok (0, 0), { s with calls := s.calls + 1 }) :=
  failed_run _ _ h

theorem incrBy_answers (key : String) (amount : ℤ) (now : ℚ) (s : RedisServer) :
    ∃ o s', (incrBy key amount now).run s = (.ok o, s') := by
  simp only [incrBy, lookup, run_bind, run_get, run_pure]
  split
  · exact ⟨none, s, rfl⟩
  · exact ⟨_, _, rfl⟩

/-- With a time to live that the server refuses, nothing is counted. -/
theorem add_refused (client : RedisClient) (httl : ttl ≤ 0) (key : String) (amount : ℤ) (now : ℚ)
    (s : RedisServer) :
    ∃ s', (client.add key amount ttl now).run s = (.ok (0, 0), s') := by
  cases h : client.fails s.calls with
  | true => exact ⟨_, add_failed h key amount ttl now⟩
  | false =>
    obtain ⟨o, s₁, hincr⟩ :=
      incrBy_answers (client.keyPrefix ++ key) amount now { s with calls := s.calls + 1 }
    obtain ⟨r, hrem⟩ := ttl_run (client.keyPrefix ++ key) now s₁
    refine ⟨s₁, ?_⟩
    rw [RedisClient.add, attempt_run, h]
    simp only [Bool.false_eq_true, if_false, run_bind, setNx, if_pos httl, run_pure, hincr, hrem]

end RedisServer

end

end CloudMonitor
