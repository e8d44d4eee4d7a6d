import CloudMonitor.Lib.Locked
import CloudMonitor.Store.Keys
import CloudMonitor.Store.MemoryMap

/-!
# The in-process store under threads

Each method step by step, as a worker thread runs it between taking the lock
and giving it back: the clock, then one read or write of the dictionary after
the other. Whatever the interleaving, the threads see a store whose methods
are one step.
-/

namespace CloudMonitor

open Fallible

namespace MemoryStore

variable (interval : ℚ)

-- ---------------------------------------------------------------------------
-- The methods, step by step
-- ---------------------------------------------------------------------------

/-- What a method answers, or the exception it raises. -/
abbrev Steps (α : Type) : Type := Micro MemoryStore (Except ApiError α)

def putSteps (key : String) (o : Option (Entry String ℚ)) : Steps Unit :=
  .write (fun s => { s with data := Function.update s.data key o }) (.done (.ok ()))

def liveSteps (key : String) (now : ℚ) : Steps (Option (Entry String ℚ)) :=
  .read fun s =>
    match s.data key with
    | none => .done (.ok none)
    | some entry =>
      if entry.expires ≤ now then (putSteps key none).andThen fun _ => .done (.ok none)
      else .done (.ok (some entry))

/-- The comprehension reads the dictionary, and then two attributes are set. -/
def purgeSteps (now : ℚ) : Steps Unit :=
  .read fun s =>
    if now - s.lastPurge < interval then .done (.ok ())
    else .read fun s =>
      .write (fun t => { t with data := sweep now s.data })
        (.write (fun t => { t with lastPurge := now }) (.done (.ok ())))

def getSteps (key : String) (now : ℚ) : Steps (Option String) :=
  (liveSteps key now).andThen fun entry => .done (.ok (entry.map Entry.value))

def setSteps (key value : String) (ttl : ℤ) (now : ℚ) : Steps Unit :=
  (purgeSteps interval now).andThen fun _ =>
    putSteps key (some { value := value, expires := now + ttl })

def intSteps (text : String) : Steps ℤ :=
  .done (match readInt? text with
    | some n => .ok n
    | none => .error .internal)

def startedSteps (entry : Option (Entry String ℚ)) (window : ℚ) : Steps (ℤ × ℚ) :=
  match entry with
  | some entry => (intSteps entry.value).andThen fun n => .done (.ok (n, entry.expires))
  | none => .done (.ok (0, window))

def addSteps (key : String) (amount ttl : ℤ) (now : ℚ) : Steps (ℤ × ℤ) :=
  (purgeSteps interval now).andThen fun _ =>
    (liveSteps key now).andThen fun entry =>
      (startedSteps entry (now + ttl)).andThen fun (value, expires) =>
        (putSteps key (some { value := toString (value + amount), expires := expires })).andThen
          fun _ => .done (.ok (value + amount, max 1 (roundHalfEven (expires - now))))

/-- What a thread does from the clock reading `now` to the end of the method. -/
def callSteps (now : ℚ) : StoreCall String String → Steps (StoreReply String ℤ)
  | .get key => (getSteps key now).andThen fun v => .done (.ok (.got v))
  | .set key value ttl => (setSteps interval key value ttl now).andThen fun _ => .done (.ok .done)
  | .contains key => (getSteps key now).andThen fun v => .done (.ok (.contained v.isSome))
  | .delete key => (putSteps key none).andThen fun _ => .done (.ok .done)
  | .add key amount ttl =>
    (addSteps interval key amount ttl now).andThen fun (value, left) =>
      .done (.ok (.counted value left))

-- ---------------------------------------------------------------------------
-- Without interruption they are the methods
-- ---------------------------------------------------------------------------

open Micro

theorem whole_done (a : α) : (Micro.done (.ok a) : Steps α).whole = (pure a : Op α) := rfl

theorem whole_put (key : String) (o : Option (Entry String ℚ)) :
    (putSteps key o).whole = put key o := rfl

theorem whole_live (key : String) (now : ℚ) : (liveSteps key now).whole = live key now := by
  refine whole_eq fun s => ?_
  simp only [liveSteps, live, finish, run_bind, run_get]
  cases s.data key with
  | none => rfl
  | some entry => simp only; split <;> rfl

theorem whole_purge (now : ℚ) : (purgeSteps interval now).whole = purgeEvery interval now := by
  refine whole_eq fun s => ?_
  simp only [purgeSteps, purgeEvery, finish, run_bind, run_get]
  split <;> rfl

theorem whole_get (key : String) (now : ℚ) : (getSteps key now).whole = get key now := by
  rw [getSteps, whole_andThen, whole_live]
  rfl

theorem whole_set (key value : String) (ttl : ℤ) (now : ℚ) :
    (setSteps interval key value ttl now).whole = setEvery interval key value ttl now := by
  rw [setSteps, whole_andThen, whole_purge]
  rfl

theorem whole_started (entry : Option (Entry String ℚ)) (window : ℚ) :
    (startedSteps entry window).whole = started entry window := by
  cases entry with
  | none => rfl
  | some entry =>
    refine whole_eq fun s => ?_
    simp only [startedSteps, started, intSteps, int]
    cases readInt? entry.value <;> rfl

theorem whole_add (key : String) (amount ttl : ℤ) (now : ℚ) :
    (addSteps interval key amount ttl now).whole = addEvery interval key amount ttl now := by
  simp only [addSteps, addEvery, whole_andThen, whole_purge, whole_live, whole_started, whole_put,
    whole_done]

/-- With nothing in between, a thread does what the method does in one step. -/
theorem finish_callSteps (now : ℚ) (c : StoreCall String String) (s : MemoryStore) :
    (callSteps interval now c).finish s = (call interval now c).run s := by
  rw [← run_whole]
  refine congrArg (fun x : Op _ => x.run s) ?_
  cases c with
  | get key => simp only [callSteps, call, whole_andThen, whole_get, whole_done]
  | set key value ttl => simp only [callSteps, call, whole_andThen, whole_set, whole_done]
  | contains key =>
    simp only [callSteps, call, contains, whole_andThen, whole_get, whole_done, bind_assoc,
      pure_bind]
  | delete key => simp only [callSteps, call, whole_andThen, whole_put, whole_done, delete]
  | add key amount ttl => simp only [callSteps, call, whole_andThen, whole_add, whole_done]

-- ---------------------------------------------------------------------------
-- Threads see whole methods
-- ---------------------------------------------------------------------------

section
variable (ι : Type)

/-- The store and the worker threads, each somewhere in a method. -/
abbrev Threads : Type :=
  LockedObject ι (StoreCall String String) MemoryStore ℚ (Except ApiError (StoreReply String ℤ))

abbrev WholeCalls : Type :=
  AtomicObject ι (StoreCall String String) MemoryStore ℚ (Except ApiError (StoreReply String ℤ))

end

section
variable {ι : Type} [DecidableEq ι]

def runThreads (s : MemoryStore) (now : ℚ)
    (schedule : List (ThreadEvent ι (StoreCall String String) ℚ)) : Threads ι :=
  play (LockedObject.step (callSteps interval)) (.start s now) schedule

def runCalls (s : MemoryStore) (now : ℚ)
    (events : List (AtomicEvent ι (StoreCall String String) ℚ)) : WholeCalls ι :=
  play (AtomicObject.step fun t c => (call interval t c).run) (.start s now) events

theorem threads_match (s : MemoryStore) (now : ℚ)
    (schedule : List (ThreadEvent ι (StoreCall String String) ℚ)) :
    LockedObject.Matches (runThreads interval s now schedule)
      (runCalls interval s now
        (LockedObject.events (callSteps interval) (.start s now) schedule)) :=
  LockedObject.matches_play (finish_callSteps interval) (LockedObject.matches_start s now) schedule

/-- Whatever the order of the threads' steps, all they see is what they would
see if every method were one step; and these steps are one run of the store,
at times that do not decrease. -/
theorem threads_linearise (interval : ℚ) (s : MemoryStore) (now : ℚ)
    (schedule : List (ThreadEvent ι (StoreCall String String) ℚ)) :
    ∃ events : List (AtomicEvent ι (StoreCall String String) ℚ),
      (runCalls interval s now events).log = (runThreads interval s now schedule).log ∧
      (runCalls interval s now events).now = (runThreads interval s now schedule).now ∧
      ((runThreads interval s now schedule).holder = none →
        (runCalls interval s now events).shared = (runThreads interval s now schedule).shared) ∧
      (runCalls interval s now events).Ordered ∧
      ∃ t ≤ (runCalls interval s now events).now,
        AtomicObject.Explains (fun t c => (call interval t c).run) s now t
          (runCalls interval s now events).order (runCalls interval s now events).shared := by
  have h := threads_match interval s now schedule
  exact ⟨_, h.log, h.now, h.free, AtomicObject.ordered_play _, AtomicObject.explains_play _⟩

-- ---------------------------------------------------------------------------
-- Threads see an exact map
-- ---------------------------------------------------------------------------

/-- Positive times to live, and counters have keys of their own. -/
def Fits (counters : String → Prop) : StoreCall String String → Prop
  | .set key _ ttl => ¬counters key ∧ 0 < ttl
  | .add key _ ttl => counters key ∧ 0 < ttl
  | _ => True

def mapCall (now : ℚ) (c : StoreCall String String) (m : TtlMap String String ℚ) :
    Except ApiError (StoreReply String ℤ) × TtlMap String String ℚ :=
  (answered (m.call toString now c).1, (m.call toString now c).2)

/-- The map shows in the store and has counters under counters' keys. -/
structure Represents (counters : String → Prop) (now : ℚ) (s : MemoryStore)
    (m : TtlMap String String ℚ) : Prop where
  shows : Shows now s m
  counts : ∀ key, counters key → ∀ e, m key = some e → e.value.isCount

section
variable {counters : String → Prop} {now : ℚ} {s : MemoryStore} {m : TtlMap String String ℚ}
  {c : StoreCall String String}

theorem Represents.allows (h : Represents counters now s m) (hc : Fits counters c) :
    m.Allows now c := by
  cases c with
  | set key value ttl => exact hc.2
  | add key amount ttl =>
    exact ⟨hc.2, fun e he => h.counts key hc.1 e (alive_eq_some.mp he).1⟩
  | _ => trivial

theorem Represents.update (h : Represents counters now s m) {key : String}
    {o : Option (Entry (Content String) ℚ)}
    (ho : counters key → ∀ e, o = some e → e.value.isCount) (k : String) (hk : counters k)
    (e : Entry (Content String) ℚ) (he : Function.update m key o k = some e) :
    e.value.isCount := by
  rcases eq_or_ne k key with rfl | hne
  · rw [Function.update_self] at he
    exact ho hk e he
  · rw [Function.update_of_ne hne] at he
    exact h.counts k hk e he

theorem Represents.call (interval : ℚ) (h : Represents counters now s m) (hc : Fits counters c) :
    ((MemoryStore.call interval now c).run s).1 = (mapCall now c m).1 ∧
      Represents counters now ((MemoryStore.call interval now c).run s).2 (mapCall now c m).2 := by
  obtain ⟨s', hrun, hshows⟩ := call_run interval h.shows c (h.allows hc)
  rw [hrun]
  refine ⟨rfl, hshows, ?_⟩
  cases c with
  | get key => exact h.counts
  | contains key => exact h.counts
  | delete key => exact h.update fun _ _ he => nomatch he
  | set key value ttl => exact h.update fun hk => absurd hk hc.1
  | add key amount ttl =>
    refine h.update fun _ e he => ?_
    obtain rfl := Option.some.inj he
    rfl

end

def runMap (start : ℚ) (events : List (AtomicEvent ι (StoreCall String String) ℚ)) :
    AtomicObject ι (StoreCall String String) (TtlMap String String ℚ) ℚ
      (Except ApiError (StoreReply String ℤ)) :=
  play (AtomicObject.step mapCall) (.start TtlMap.empty start) events

theorem alike_start (counters : String → Prop) (start : ℚ) :
    AtomicObject.Alike (Represents counters) (Fits counters)
      (.start (new start) start : WholeCalls ι) (runMap start []) :=
  ⟨rfl, rfl, rfl, ⟨shows_new start, fun _ _ _ he => nomatch he⟩, AtomicObject.calls_start _ _ _⟩

/-- Threads that call a fresh store see the map with a time to live, one call
after the other. -/
theorem threads_see_ttl_map (interval start : ℚ) (counters : String → Prop)
    (schedule : List (ThreadEvent ι (StoreCall String String) ℚ))
    (h : ∀ i c, .invoke i c ∈ schedule → Fits counters c) :
    ∃ events : List (AtomicEvent ι (StoreCall String String) ℚ),
      (runMap start events).log = (runThreads interval (new start) start schedule).log := by
  have hmatch := threads_match interval (new start) start schedule
  have halike : AtomicObject.Alike (Represents counters) (Fits counters)
      (runCalls interval (new start) start
        (LockedObject.events (callSteps interval) (.start (new start) start) schedule))
      (runMap start
        (LockedObject.events (callSteps interval) (.start (new start) start) schedule)) := by
    refine (alike_start counters start).play ?_ ?_ ?_
    · exact fun t t' s m hs hle => ⟨hs.shows.later hle, hs.counts⟩
    · exact fun t c s m hc hs => hs.call interval hc
    · exact fun i c hi => h i c (LockedObject.invoke_mem_events hi)
  exact ⟨_, halike.log.symm.trans hmatch.log⟩

/-- Two attempts on one account, and a look at the denylist. The second thread
finds the lock taken, and the clock moves while it is held. -/
def racingCalls : List (ThreadEvent Bool (StoreCall String String) ℚ) :=
  [.invoke true (.add "login:account:a" 1 900), .invoke false (.add "login:account:a" 1 900),
    .act true, .act false, .act true, .tick 1, .act true, .act false, .act true, .act true,
    .act true, .tick 2, .act false, .act false, .act true, .act false, .act false, .act false,
    .act false, .act false, .invoke true (.contains "revoked:a3f1"), .act true, .act true,
    .act true, .act true, .act true]

theorem racingCalls_invoked {i : Bool} {c : StoreCall String String}
    (h : .invoke i c ∈ racingCalls) :
    c = .add "login:account:a" 1 900 ∨ c = .contains "revoked:a3f1" := by
  simp only [racingCalls, List.mem_cons, ThreadEvent.invoke.injEq, reduceCtorEq, false_or,
    List.not_mem_nil, or_false] at h
  rcases h with ⟨-, rfl⟩ | ⟨-, rfl⟩ | ⟨-, rfl⟩
  · exact .inl rfl
  · exact .inl rfl
  · exact .inr rfl

theorem threads_see_ttl_map_racing :
    ∃ events : List (AtomicEvent Bool (StoreCall String String) ℚ),
      (runMap 0 events).log = (runThreads 60 (new 0) 0 racingCalls).log := by
  refine threads_see_ttl_map 60 0 (· = "login:account:a") racingCalls fun i c h => ?_
  rcases racingCalls_invoked h with rfl | rfl
  · exact ⟨rfl, by decide⟩
  · trivial

end

-- ---------------------------------------------------------------------------
-- No count is lost
-- ---------------------------------------------------------------------------

/-- Under the key threads may only look, or add one to a counter of this time
to live. -/
def CountsOne (key : String) (ttl : ℤ) : StoreCall String String → Prop
  | .add k amount ttl' => k = key → amount = 1 ∧ ttl' = ttl
  | c => c.Spares key

def countOf {ι : Type} (key : String) :
    ι × StoreCall String String × Except ApiError (StoreReply String ℤ) → Option ℤ
  | (_, .add k _ _, .ok (.counted value _)) => if k = key then some value else none
  | _ => none

theorem countOf_eq_none {ι : Type} {key : String} {c : StoreCall String String} {i : ι}
    {reply : Except ApiError (StoreReply String ℤ)} (h : ∀ amount ttl, c ≠ .add key amount ttl) :
    countOf key (i, c, reply) = none := by
  unfold countOf
  split
  · next k amount ttl value left heq =>
    obtain ⟨-, rfl, -⟩ := heq
    refine if_neg fun hk => ?_
    exact h amount ttl (congrArg (StoreCall.add · amount ttl) hk)
  · rfl

/-- The numbers from `n + 1` on, the last one first. -/
def numbers (n : ℤ) (k : ℕ) : List ℤ := (List.range k).reverse.map fun m : ℕ => n + 1 + (m : ℤ)

section
variable {key : String} {ttl n : ℤ} {now t limit : ℚ} {s s' : MemoryStore}
  {c : StoreCall String String}

theorem numbers_succ (n : ℤ) (k : ℕ) : numbers n (k + 1) = (n + 1 + k) :: numbers n k := by
  simp [numbers, List.range_succ]

theorem nodup_numbers (n : ℤ) (k : ℕ) : (numbers n k).Nodup := by
  refine List.Nodup.map (fun a b h => ?_) (List.nodup_reverse.mpr List.nodup_range)
  have hab : n + 1 + (a : ℤ) = n + 1 + b := h
  omega

theorem mem_numbers {k : ℕ} {v : ℤ} : v ∈ numbers n k ↔ n < v ∧ v ≤ n + k := by
  simp only [numbers, List.mem_map, List.mem_reverse, List.mem_range]
  constructor
  · rintro ⟨m, hm, rfl⟩
    omega
  · rintro ⟨hlow, hhigh⟩
    exact ⟨(v - n - 1).toNat, by omega, by omega⟩

/-- Until its window ends a counter is what it was. -/
theorem counter_later (hle : now ≤ t) (hlt : t < (s.counter ttl now key).expires) :
    (s.counter ttl t key).value = (s.counter ttl now key).value ∧
      (s.counter ttl now key).expires ≤ (s.counter ttl t key).expires := by
  unfold counter at hlt ⊢
  cases hl : s.look now key with
  | none =>
    rw [look_none_of_le hle hl]
    exact ⟨rfl, add_le_add_left hle _⟩
  | some e =>
    rw [hl] at hlt
    have hlive : s.look t key = some e := by
      rw [← alive_look hle, hl]
      exact alive_some_of_lt hlt
    rw [hlive]
    exact ⟨rfl, le_rfl⟩

theorem call_spares (hc : CountsOne key ttl c) (hne : ∀ amount ttl', c ≠ .add key amount ttl')
    (s : MemoryStore) (ht : now ≤ t) :
    ((call purgeIntervalSeconds now c).run s).2.look t key = s.look t key := by
  cases c with
  | get k =>
    obtain ⟨s', hrun, hk⟩ := get_run k now s
    simpa only [call, run_map_state, hrun] using hk t ht key
  | contains k =>
    obtain ⟨s', hrun, hk⟩ := contains_run k now s
    simpa only [call, run_map_state, hrun] using hk t ht key
  | set k value ttl' =>
    obtain ⟨s', hrun, hw⟩ := setEvery_run purgeIntervalSeconds k value ttl' now s
    simpa only [call, run_map_state, hrun] using hw.other ht (Ne.symm hc)
  | delete k =>
    obtain ⟨s', hrun, hw⟩ := delete_run k now s
    simpa only [call, run_map_state, hrun] using hw.other ht (Ne.symm hc)
  | add k amount ttl' =>
    have hk : key ≠ k := by
      rintro rfl
      exact hne amount ttl' rfl
    simp only [call, run_map_state]
    exact (add_usesOnly k now amount ttl').other s ht hk

/-- Adding one answers the next number and leaves it there. -/
theorem call_add (hvalue : (s.counter ttl now key).value = toString n)
    (hlimit : limit ≤ (s.counter ttl now key).expires) :
    (∃ left, ((call purgeIntervalSeconds now (.add key 1 ttl)).run s).1 =
        .ok (.counted (n + 1) left)) ∧
      ∀ t, now ≤ t → t < limit →
        (((call purgeIntervalSeconds now (.add key 1 ttl)).run s).2.counter ttl t key).value =
            toString (n + 1) ∧
          limit ≤ (((call purgeIntervalSeconds now (.add key 1 ttl)).run s).2.counter ttl t
            key).expires := by
  obtain ⟨s', hrun, hw⟩ := add_run (s := s) n 1 (by rw [hvalue]; exact readInt?_repr n)
  have hcall : (call purgeIntervalSeconds now (.add key 1 ttl)).run s =
      (.ok (.counted (n + 1) (max 1 (roundHalfEven ((s.counter ttl now key).expires - now)))),
        s') := by
    rw [call, run_map, show addEvery purgeIntervalSeconds key 1 ttl now = add key 1 ttl now from rfl,
      hrun]
    rfl
  rw [hcall]
  refine ⟨⟨_, rfl⟩, fun t ht hlt => ?_⟩
  have hlook : s'.look t key =
      some { value := toString (n + 1), expires := (s.counter ttl now key).expires } := by
    rw [hw.same ht]
    exact alive_some_of_lt (hlt.trans_le hlimit)
  rw [counter, hlook]
  exact ⟨rfl, hlimit⟩

section
variable {ι : Type} {order : List (Commit ι (StoreCall String String) ℚ
  (Except ApiError (StoreReply String ℤ)))}

/-- After `k` calls that added, they have been answered with the next `k`
numbers, and the counter has the last of them until its window ends. -/
structure Counts (key : String) (ttl n : ℤ) (limit t : ℚ) (k : ℕ)
    (order : List (Commit ι (StoreCall String String) ℚ (Except ApiError (StoreReply String ℤ))))
    (s : MemoryStore) : Prop where
  values : (order.map Commit.answer).filterMap (countOf key) = numbers n k
  counter : ∀ t', t ≤ t' → t' < limit →
    (s.counter ttl t' key).value = toString (n + k) ∧ limit ≤ (s.counter ttl t' key).expires

theorem explains_counts {s₀ : MemoryStore} {start : ℚ}
    (hstart : s₀.counter ttl start key = { value := toString n, expires := limit })
    (h : AtomicObject.Explains (fun t c => (call purgeIntervalSeconds t c).run) s₀ start t order s)
    (hcalls : ∀ c ∈ order, CountsOne key ttl c.call) (hlt : t < limit) :
    ∃ k, Counts key ttl n limit t k order s := by
  induction h with
  | start =>
    refine ⟨0, rfl, fun t' hle hlt' => ?_⟩
    have hlive : t' < (s₀.counter ttl start key).expires := by rwa [hstart]
    have hlater := counter_later hle hlive
    rw [hstart] at hlater
    simpa using hlater
  | @call t order s c h hle hreply ih =>
    obtain ⟨k, hvalues, hcounter⟩ := ih (fun c hc => hcalls c (List.mem_cons_of_mem _ hc))
      (hle.trans_lt hlt)
    have hc := hcalls c List.mem_cons_self
    by_cases hadd : ∃ amount ttl', c.call = .add key amount ttl'
    · obtain ⟨amount, ttl', hadd⟩ := hadd
      rw [hadd] at hc
      obtain ⟨rfl, rfl⟩ := hc rfl
      obtain ⟨hvalue, hlimit⟩ := hcounter c.time hle hlt
      obtain ⟨⟨left, hanswer⟩, hnext⟩ := call_add hvalue hlimit
      have hsucc : n + (k : ℤ) + 1 = n + (k + 1 : ℕ) := by push_cast; ring
      refine ⟨k + 1, ?_, fun t' hle' hlt' => ?_⟩
      · rw [hadd, hanswer, hsucc] at hreply
        have hfirst : countOf key c.answer = some (n + 1 + k) := by
          rw [Commit.answer, hadd, ← hreply]
          simp only [countOf, if_true, Option.some.injEq]
          omega
        rw [List.map_cons, List.filterMap_cons_some hfirst, hvalues, numbers_succ]
      · rw [hadd, ← hsucc]
        exact hnext t' hle' hlt'
    · have hother : ∀ amount ttl', c.call ≠ .add key amount ttl' :=
        fun amount ttl' heq => hadd ⟨amount, ttl', heq⟩
      refine ⟨k, ?_, fun t' hle' hlt' => ?_⟩
      · rw [List.map_cons, ← hvalues, List.filterMap_cons_none]
        rw [Commit.answer, countOf_eq_none hother]
      · have hlook := call_spares hc hother s hle'
        rw [counter_congr hlook]
        exact hcounter t' (hle.trans hle') hlt'

end

/-- The values that calls adding to the key have been answered with. -/
def countsRead (key : String) (log : List (Mark ι (StoreCall String String) ℚ
    (Except ApiError (StoreReply String ℤ)))) : List ℤ :=
  (log.filterMap Mark.answer).filterMap (countOf key)

theorem subperm_filterMap {α β : Type} {l l' : List α} (f : α → Option β) (h : l.Subperm l') :
    (l.filterMap f).Subperm (l'.filterMap f) := by
  obtain ⟨m, hperm, hsub⟩ := h
  exact ⟨m.filterMap f, hperm.filterMap f, hsub.filterMap f⟩

end

/-- However the steps of the threads interleave, those that add one to a key
within a window are answered with different numbers, and once all are done the
counter is their number: no two read the same value, and none is overwritten. -/
theorem no_count_lost {ι : Type} [DecidableEq ι] (s : MemoryStore) (now : ℚ) (key : String)
    (ttl n : ℤ) (limit : ℚ)
    (hstart : s.counter ttl now key = { value := toString n, expires := limit })
    (schedule : List (ThreadEvent ι (StoreCall String String) ℚ))
    (hcalls : ∀ i c, .invoke i c ∈ schedule → CountsOne key ttl c) :
    let o := runThreads purgeIntervalSeconds s now schedule
    let counts := countsRead key o.log
    o.now < limit → counts.Nodup ∧ (∀ v ∈ counts, n < v) ∧
      ((∀ i, o.phase i = .idle) → counts.Perm (numbers n counts.length) ∧
        (o.shared.counter ttl o.now key).value = toString (n + counts.length)) := by
  intro o counts hlt
  let events := LockedObject.events (callSteps purgeIntervalSeconds) (.start s now) schedule
  let a := runCalls purgeIntervalSeconds s now events
  have hmatch : LockedObject.Matches o a := threads_match purgeIntervalSeconds s now schedule
  have hlog : counts = countsRead key a.log := by rw [hmatch.log]
  have hordered : a.Ordered := AtomicObject.ordered_play events
  have hallowed : AtomicObject.Calls (CountsOne key ttl) a := (AtomicObject.calls_start _ s now).play
    fun i c hi => hcalls i c (LockedObject.invoke_mem_events hi)
  obtain ⟨t, hle, hexplains⟩ : ∃ t ≤ a.now, AtomicObject.Explains
      (fun t c => (call purgeIntervalSeconds t c).run) s now t a.order a.shared :=
    AtomicObject.explains_play events
  rw [hmatch.now] at hle
  obtain ⟨k, hvalues, hcounter⟩ :=
    explains_counts hstart hexplains hallowed.order (hle.trans_lt hlt)
  have hsub : counts.Subperm (numbers n k) := by
    rw [← hvalues, hlog]
    exact subperm_filterMap (countOf key) hordered.subperm
  have hnodup : counts.Nodup := by
    obtain ⟨m, hperm, hm⟩ := hsub
    exact hperm.nodup_iff.mp (hm.nodup (nodup_numbers n k))
  refine ⟨hnodup, fun v hv => (mem_numbers.mp (hsub.subset hv)).1, fun hidle => ?_⟩
  -- nobody is in a call, so every reply has been passed on
  have hpending : ∀ i, AtomicObject.pending i (a.phase i) = [] := by
    intro i
    rw [hmatch.phase i, hidle i]
    rfl
  have hperm : counts.Perm (numbers n k) := by
    rw [← hvalues, hlog]
    exact ((hordered.perm hpending).filterMap (countOf key)).symm
  have hlength : counts.length = k := by simp [hperm.length_eq, numbers]
  have hfree : o.holder = none := by
    cases hh : o.holder with
    | none => rfl
    | some i =>
      have hholds := (hmatch.holder i).mp hh
      rw [hidle i] at hholds
      exact hholds.elim
  refine ⟨hlength ▸ hperm, ?_⟩
  have hshared : a.shared = o.shared := hmatch.free hfree
  rw [hlength, ← hshared]
  exact (hcounter o.now hle hlt).1

theorem no_count_lost_racing :
    (countsRead "login:account:a" (runThreads 60 (new 0) 0 racingCalls).log).Nodup := by
  refine (no_count_lost (new 0) 0 "login:account:a" 900 0 900 (by decide +kernel) racingCalls
    (fun i c h => ?_) (by decide +kernel)).1
  rcases racingCalls_invoked h with rfl | rfl
  · exact fun _ => ⟨rfl, rfl⟩
  · trivial

example : countsRead "login:account:a" (runThreads 60 (new 0) 0 racingCalls).log = [2, 1] := by
  decide +kernel

end MemoryStore

end CloudMonitor
