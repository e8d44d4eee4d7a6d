import CloudMonitor.Lib.Expiring
import CloudMonitor.Lib.Fallible
import CloudMonitor.Lib.Format
import CloudMonitor.Session

/-!
# The in-process store

Login counters, revoked tokens and cached diagnoses, each under a key and
with an expiry. Every operation reads the clock once, so it takes that reading
as `now`. What an operation does is said by what a lookup finds from then on
(`look`); when expired entries are really dropped cannot be seen.
-/

namespace CloudMonitor

structure MemoryStore where
  data : String → Option (Entry String ℚ)
  lastPurge : ℚ

namespace MemoryStore

def purgeIntervalSeconds : ℚ := 60

def new (now : ℚ) : MemoryStore := { data := fun _ => none, lastPurge := now }

abbrev Op : Type → Type := Fallible MemoryStore ApiError

open Fallible

def put (key : String) (o : Option (Entry String ℚ)) : Op Unit :=
  modify fun s => { s with data := Function.update s.data key o }

def live (key : String) (now : ℚ) : Op (Option (Entry String ℚ)) := do
  match (← get).data key with
  | none => return none
  | some entry =>
    if entry.expires ≤ now then do
      put key none
      return none
    else
      return some entry

def purge (now : ℚ) : Op Unit := do
  if now - (← get).lastPurge < purgeIntervalSeconds then
    return ()
  else
    modify fun s => { data := sweep now s.data, lastPurge := now }

/-- A purge with any interval between two of them. -/
def purgeEvery (interval now : ℚ) : Op Unit := do
  if now - (← get).lastPurge < interval then
    return ()
  else
    modify fun s => { data := sweep now s.data, lastPurge := now }

def get (key : String) (now : ℚ) : Op (Option String) := do
  let entry ← live key now
  return entry.map Entry.value

def set (key value : String) (ttl : ℤ) (now : ℚ) : Op Unit := do
  purge now
  put key (some { value := value, expires := now + ttl })

def contains (key : String) (now : ℚ) : Op Bool := do
  return (← get key now).isSome

def delete (key : String) : Op Unit := put key none

/-- `int(text)`, a `ValueError` on what is no number. -/
def int (text : String) : Op ℤ :=
  match readInt? text with
  | some n => return n
  | none => raise .internal

/-- What a counter starts from: its live entry, else zero and a new window. -/
def started (entry : Option (Entry String ℚ)) (window : ℚ) : Op (ℤ × ℚ) :=
  match entry with
  | some entry => do return (← int entry.value, entry.expires)
  | none => return (0, window)

/-- Adds to a counter and returns its new value and the seconds it has left,
never less than one. -/
def add (key : String) (amount ttl : ℤ) (now : ℚ) : Op (ℤ × ℤ) := do
  purge now
  let entry ← live key now
  let (value, expires) ← started entry (now + ttl)
  let value := value + amount
  put key (some { value := toString value, expires := expires })
  return (value, max 1 (roundHalfEven (expires - now)))

-- ---------------------------------------------------------------------------
-- Any purge interval
-- ---------------------------------------------------------------------------

section
variable (interval : ℚ)

def setEvery (key value : String) (ttl : ℤ) (now : ℚ) : Op Unit := do
  purgeEvery interval now
  put key (some { value := value, expires := now + ttl })

def addEvery (key : String) (amount ttl : ℤ) (now : ℚ) : Op (ℤ × ℤ) := do
  purgeEvery interval now
  let entry ← live key now
  let (value, expires) ← started entry (now + ttl)
  let value := value + amount
  put key (some { value := toString value, expires := expires })
  return (value, max 1 (roundHalfEven (expires - now)))

end

theorem every_purgeIntervalSeconds :
    setEvery purgeIntervalSeconds = set ∧ addEvery purgeIntervalSeconds = add := ⟨rfl, rfl⟩

-- ---------------------------------------------------------------------------
-- What a lookup finds
-- ---------------------------------------------------------------------------

def look (s : MemoryStore) (now : ℚ) (key : String) : Option (Entry String ℚ) :=
  alive now (s.data key)

/-- From `now` on a lookup finds `o` under `key`, and elsewhere what it found
before. -/
def Writes (now : ℚ) (key : String) (o : Option (Entry String ℚ)) (s s' : MemoryStore) : Prop :=
  ∀ t, now ≤ t → ∀ k, s'.look t k = if k = key then alive t o else s.look t k

def Keeps (now : ℚ) (s s' : MemoryStore) : Prop := ∀ t, now ≤ t → ∀ k, s'.look t k = s.look t k

section
variable {now t : ℚ} {key : String} {s s' s'' : MemoryStore} {o : Option (Entry String ℚ)}

theorem look_none_of_le (h : now ≤ t) (hn : s.look now key = none) : s.look t key = none :=
  alive_none_of_le h hn

theorem alive_look (h : now ≤ t) : alive t (s.look now key) = s.look t key := alive_alive h _

theorem Keeps.refl : Keeps now s s := fun _ _ _ => rfl

theorem Keeps.writes (h : Keeps now s s') (hw : Writes now key o s' s'') :
    Writes now key o s s'' := by
  intro t ht k
  rw [hw t ht k, h t ht k]

theorem Writes.same (h : Writes now key o s s') (ht : now ≤ t) : s'.look t key = alive t o := by
  simp [h t ht key]

theorem Writes.other {k : String} (h : Writes now key o s s') (ht : now ≤ t) (hk : k ≠ key) :
    s'.look t k = s.look t k := by
  simp [h t ht k, hk]

theorem put_run (key : String) (o : Option (Entry String ℚ)) (now : ℚ) (s : MemoryStore) :
    ∃ s', (put key o).run s = (.ok (), s') ∧ Writes now key o s s' := by
  refine ⟨_, rfl, ?_⟩
  intro t _ k
  by_cases hk : k = key
  · subst hk
    simp [look]
  · simp [look, hk]

end

-- ---------------------------------------------------------------------------
-- The operations
-- ---------------------------------------------------------------------------

theorem purgeEvery_run (interval now : ℚ) (s : MemoryStore) :
    ∃ s', (purgeEvery interval now).run s = (.ok (), s') ∧ Keeps now s s' := by
  by_cases h : now - s.lastPurge < interval
  · exact ⟨s, by simp [purgeEvery, h], Keeps.refl⟩
  · exact ⟨{ data := sweep now s.data, lastPurge := now }, by simp [purgeEvery, h],
      fun t ht k => alive_sweep ht s.data k⟩

theorem purge_run (now : ℚ) (s : MemoryStore) :
    ∃ s', (purge now).run s = (.ok (), s') ∧ Keeps now s s' :=
  purgeEvery_run purgeIntervalSeconds now s

theorem live_run (key : String) (now : ℚ) (s : MemoryStore) :
    ∃ s', (live key now).run s = (.ok (s.look now key), s') ∧ Keeps now s s' := by
  cases h : s.data key with
  | none => exact ⟨s, by simp [live, look, h], Keeps.refl⟩
  | some e =>
    by_cases he : e.expires ≤ now
    · have hl : s.look now key = none := by simpa [look, h, alive_eq_none] using he
      obtain ⟨s', hp, hw⟩ := put_run key none now s
      refine ⟨s', by simp [live, h, he, hl, hp], ?_⟩
      intro t ht k
      rw [hw t ht k]
      split
      · next hk => rw [hk, look_none_of_le ht hl, alive_none]
      · rfl
    · have hl : s.look now key = some e := by simp [look, h, alive_some_of_lt (not_le.mp he)]
      exact ⟨s, by simp [live, h, he, hl], Keeps.refl⟩

theorem get_run (key : String) (now : ℚ) (s : MemoryStore) :
    ∃ s', (get key now).run s = (.ok ((s.look now key).map Entry.value), s') ∧ Keeps now s s' := by
  obtain ⟨s', h, hk⟩ := live_run key now s
  exact ⟨s', by simp [get, h], hk⟩

theorem contains_run (key : String) (now : ℚ) (s : MemoryStore) :
    ∃ s', (contains key now).run s = (.ok (s.look now key).isSome, s') ∧ Keeps now s s' := by
  obtain ⟨s', h, hk⟩ := get_run key now s
  exact ⟨s', by simp [contains, h], hk⟩

theorem setEvery_run (interval : ℚ) (key value : String) (ttl : ℤ) (now : ℚ) (s : MemoryStore) :
    ∃ s', (setEvery interval key value ttl now).run s = (.ok (), s') ∧
      Writes now key (some { value := value, expires := now + ttl }) s s' := by
  obtain ⟨s₁, h, hk⟩ := purgeEvery_run interval now s
  obtain ⟨s', hp, hw⟩ := put_run key (some { value := value, expires := now + ttl }) now s₁
  exact ⟨s', by simp [setEvery, h, hp], hk.writes hw⟩

theorem set_run (key value : String) (ttl : ℤ) (now : ℚ) (s : MemoryStore) :
    ∃ s', (set key value ttl now).run s = (.ok (), s') ∧
      Writes now key (some { value := value, expires := now + ttl }) s s' :=
  setEvery_run purgeIntervalSeconds key value ttl now s

theorem delete_run (key : String) (now : ℚ) (s : MemoryStore) :
    ∃ s', (delete key).run s = (.ok (), s') ∧ Writes now key none s s' :=
  put_run key none now s

def counter (s : MemoryStore) (ttl : ℤ) (now : ℚ) (key : String) : Entry String ℚ :=
  (s.look now key).getD { value := toString (0 : ℤ), expires := now + ttl }

theorem counter_congr {key : String} {ttl : ℤ} {now : ℚ} {s s' : MemoryStore}
    (h : s'.look now key = s.look now key) : s'.counter ttl now key = s.counter ttl now key := by
  rw [counter, counter, h]

theorem addEvery_run {key : String} {ttl : ℤ} {now : ℚ} {s : MemoryStore} (interval : ℚ)
    (value amount : ℤ) (h : readInt? (s.counter ttl now key).value = some value) :
    ∃ s', (addEvery interval key amount ttl now).run s =
        (.ok (value + amount, max 1 (roundHalfEven ((s.counter ttl now key).expires - now))), s') ∧
      Writes now key
        (some { value := toString (value + amount), expires := (s.counter ttl now key).expires }) s
          s' := by
  obtain ⟨s₁, hp, hk₁⟩ := purgeEvery_run interval now s
  obtain ⟨s₂, hl, hk₂⟩ := live_run key now s₁
  have hk : Keeps now s s₂ := fun t ht k => (hk₂ t ht k).trans (hk₁ t ht k)
  rw [hk₁ now le_rfl key] at hl
  have hstart : (started (s.look now key) (now + ttl)).run s₂ =
      (.ok (value, (s.counter ttl now key).expires), s₂) := by
    unfold counter at h ⊢
    cases hs : s.look now key with
    | none =>
      rw [hs] at h
      obtain rfl : 0 = value := Option.some.inj ((readInt?_repr 0).symm.trans h)
      rfl
    | some e =>
      have he : readInt? e.value = some value := by simpa [hs] using h
      simp [started, int, he]
  obtain ⟨s', hput, hw⟩ := put_run key
    (some { value := toString (value + amount), expires := (s.counter ttl now key).expires }) now s₂
  refine ⟨s', ?_, hk.writes hw⟩
  simp only [addEvery, run_bind, hp, hl, hstart, hput, run_pure]

theorem add_run {key : String} {ttl : ℤ} {now : ℚ} {s : MemoryStore} (value amount : ℤ)
    (h : readInt? (s.counter ttl now key).value = some value) :
    ∃ s', (add key amount ttl now).run s =
        (.ok (value + amount, max 1 (roundHalfEven ((s.counter ttl now key).expires - now))), s') ∧
      Writes now key
        (some { value := toString (value + amount), expires := (s.counter ttl now key).expires }) s
          s' :=
  addEvery_run purgeIntervalSeconds value amount h

/-- Under a key that holds no number there is nothing to add to. -/
theorem add_raises {key : String} {ttl : ℤ} {now : ℚ} {s : MemoryStore} (amount : ℤ)
    (h : readInt? (s.counter ttl now key).value = none) :
    ∃ s', (add key amount ttl now).run s = (.error .internal, s') ∧ Keeps now s s' := by
  obtain ⟨s₁, hp, hk₁⟩ := purge_run now s
  obtain ⟨s₂, hl, hk₂⟩ := live_run key now s₁
  have hk : Keeps now s s₂ := fun t ht k => (hk₂ t ht k).trans (hk₁ t ht k)
  rw [hk₁ now le_rfl key] at hl
  have hstart : (started (s.look now key) (now + ttl)).run s₂ = (.error .internal, s₂) := by
    unfold counter at h
    cases hs : s.look now key with
    | none =>
      rw [hs] at h
      exact absurd ((readInt?_repr 0).symm.trans h) (by simp)
    | some e =>
      have he : readInt? e.value = none := by simpa [hs] using h
      simp [started, int, he]
  exact ⟨s₂, by simp only [add, run_bind, hp, hl, hstart], hk⟩

theorem add_error {key : String} {amount ttl : ℤ} {now : ℚ} {s : MemoryStore} {e : ApiError}
    (h : ((add key amount ttl now).run s).1 = .error e) : e = .internal := by
  cases hr : readInt? (s.counter ttl now key).value with
  | none =>
    obtain ⟨s', hrun, -⟩ := add_raises amount hr
    rw [hrun] at h
    exact (Except.error.inj h).symm
  | some n =>
    obtain ⟨s', hrun, -⟩ := add_run n amount hr
    simp [hrun] at h

end MemoryStore

end CloudMonitor
