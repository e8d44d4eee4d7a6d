import CloudMonitor.Lib.Fallible
import CloudMonitor.Lib.Schedule
import Mathlib.Data.List.Perm.Subperm
import Mathlib.Logic.Function.Basic
import Mathlib.Order.Lattice

/-!
# Objects behind one lock

Threads call an object whose methods take a lock, read the clock and then work
on the shared state one step at a time. However the steps of the threads are
interleaved, what they are answered and when is what they would be answered by
an object that does a whole method in one step, at the instant the method read
the clock (`matches_play`).
-/

namespace CloudMonitor

-- ---------------------------------------------------------------------------
-- Methods
-- ---------------------------------------------------------------------------

/-- What a method that holds the lock has left to do. -/
inductive Micro (σ ρ : Type)
  | done (reply : ρ)
  | read (next : σ → Micro σ ρ)
  | write (f : σ → σ) (next : Micro σ ρ)

namespace Micro

variable {σ ρ α β ε : Type}

/-- The rest of the method without interruption. -/
def finish : Micro σ ρ → σ → ρ × σ
  | .done reply, s => (reply, s)
  | .read next, s => (next s).finish s
  | .write f next, s => next.finish (f s)

/-- Goes on with the result, unless it is an exception. -/
def andThen : Micro σ (Except ε α) → (α → Micro σ (Except ε β)) → Micro σ (Except ε β)
  | .done (.ok a), next => next a
  | .done (.error e), _ => .done (.error e)
  | .read f, next => .read fun s => (f s).andThen next
  | .write f rest, next => .write f (rest.andThen next)

/-- The whole method as one computation. -/
def whole (x : Micro σ (Except ε α)) : Fallible σ ε α := fun s => x.finish s

theorem run_whole (x : Micro σ (Except ε α)) (s : σ) : x.whole.run s = x.finish s := rfl

theorem whole_eq {x : Micro σ (Except ε α)} {y : Fallible σ ε α} (h : ∀ s, x.finish s = y.run s) :
    x.whole = y := funext h

theorem whole_andThen (x : Micro σ (Except ε α)) (next : α → Micro σ (Except ε β)) :
    (x.andThen next).whole = x.whole >>= fun a => (next a).whole := by
  funext s
  induction x generalizing s with
  | done reply => cases reply <;> rfl
  | read f ih => exact ih s s
  | write f rest ih => exact ih (f s)

end Micro

-- ---------------------------------------------------------------------------
-- The object with its lock
-- ---------------------------------------------------------------------------

section
variable (ι κ σ τ ρ : Type)

inductive LockPhase
  | idle
  | waiting (call : κ)
  | entered (call : κ)
  | inside (call : κ) (left : Micro σ ρ)
  | leaving (call : κ) (reply : ρ)

inductive ThreadEvent
  | tick (t : τ)
  | invoke (i : ι) (call : κ)
  | act (i : ι)

/-- What can be seen from outside. -/
inductive Mark
  | invoked (i : ι) (t : τ) (call : κ)
  | replied (i : ι) (t : τ) (call : κ) (reply : ρ)
  deriving DecidableEq

structure LockedObject where
  shared : σ
  now : τ
  holder : Option ι
  phase : ι → LockPhase κ σ ρ
  log : List (Mark ι κ τ ρ)

end

namespace LockedObject

variable {ι κ σ τ ρ : Type}

def start (s : σ) (now : τ) : LockedObject ι κ σ τ ρ where
  shared := s
  now := now
  holder := none
  phase _ := .idle
  log := []

variable [DecidableEq ι]

def goto (o : LockedObject ι κ σ τ ρ) (i : ι) (phase : LockPhase κ σ ρ) :
    LockedObject ι κ σ τ ρ :=
  { o with phase := Function.update o.phase i phase }

/-- The next step of a thread. A thread that finds the lock taken waits. -/
def act (body : τ → κ → Micro σ ρ) (o : LockedObject ι κ σ τ ρ) (i : ι) : LockedObject ι κ σ τ ρ :=
  match o.phase i with
  | .idle => o
  | .waiting call =>
    match o.holder with
    | none => { o.goto i (.entered call) with holder := some i }
    | some _ => o
  | .entered call => o.goto i (.inside call (body o.now call))
  | .inside call (.done reply) => { o.goto i (.leaving call reply) with holder := none }
  | .inside call (.read next) => o.goto i (.inside call (next o.shared))
  | .inside call (.write f next) => { o.goto i (.inside call next) with shared := f o.shared }
  | .leaving call reply => { o.goto i .idle with log := .replied i o.now call reply :: o.log }

def step [Max τ] (body : τ → κ → Micro σ ρ) (o : LockedObject ι κ σ τ ρ) :
    ThreadEvent ι κ τ → LockedObject ι κ σ τ ρ
  | .tick t => { o with now := max o.now t }
  | .invoke i call =>
    match o.phase i with
    | .idle => { o.goto i (.waiting call) with log := .invoked i o.now call :: o.log }
    | _ => o
  | .act i => o.act body i

end LockedObject

-- ---------------------------------------------------------------------------
-- The object whose methods are one step
-- ---------------------------------------------------------------------------

section
variable (ι κ σ τ ρ : Type)

inductive CallPhase
  | idle
  | waiting (call : κ)
  | answered (call : κ) (reply : ρ)
  deriving DecidableEq

inductive AtomicEvent
  | tick (t : τ)
  | invoke (i : ι) (call : κ)
  | commit (i : ι)
  | respond (i : ι)

structure Commit where
  thread : ι
  time : τ
  call : κ
  reply : ρ

/-- `order` has the calls that have been carried out, the last one first. -/
structure AtomicObject where
  shared : σ
  now : τ
  phase : ι → CallPhase κ ρ
  log : List (Mark ι κ τ ρ)
  order : List (Commit ι κ τ ρ)

end

section
variable {ι κ τ ρ : Type}

def Commit.answer (c : Commit ι κ τ ρ) : ι × κ × ρ := (c.thread, c.call, c.reply)

def Mark.answer : Mark ι κ τ ρ → Option (ι × κ × ρ)
  | .invoked .. => none
  | .replied i _ call reply => some (i, call, reply)

@[simp] theorem Mark.answer_invoked (i : ι) (t : τ) (call : κ) :
    (Mark.invoked i t call : Mark ι κ τ ρ).answer = none := rfl

@[simp] theorem Mark.answer_replied (i : ι) (t : τ) (call : κ) (reply : ρ) :
    (Mark.replied i t call reply).answer = some (i, call, reply) := rfl

end

namespace AtomicObject

variable {ι κ σ τ ρ : Type}

def start (s : σ) (now : τ) : AtomicObject ι κ σ τ ρ where
  shared := s
  now := now
  phase _ := .idle
  log := []
  order := []

section
variable [DecidableEq ι]

def goto (a : AtomicObject ι κ σ τ ρ) (i : ι) (phase : CallPhase κ ρ) : AtomicObject ι κ σ τ ρ :=
  { a with phase := Function.update a.phase i phase }

def step [Max τ] (apply : τ → κ → σ → ρ × σ) (a : AtomicObject ι κ σ τ ρ) :
    AtomicEvent ι κ τ → AtomicObject ι κ σ τ ρ
  | .tick t => { a with now := max a.now t }
  | .invoke i call =>
    match a.phase i with
    | .idle => { a.goto i (.waiting call) with log := .invoked i a.now call :: a.log }
    | _ => a
  | .commit i =>
    match a.phase i with
    | .waiting call =>
      { a.goto i (.answered call (apply a.now call a.shared).1) with
        shared := (apply a.now call a.shared).2
        order := ⟨i, a.now, call, (apply a.now call a.shared).1⟩ :: a.order }
    | _ => a
  | .respond i =>
    match a.phase i with
    | .answered call reply => { a.goto i .idle with log := .replied i a.now call reply :: a.log }
    | _ => a

end

section
variable [DecidableEq ι] {a : AtomicObject ι κ σ τ ρ} {i j : ι} {phase : CallPhase κ ρ}

@[simp] theorem goto_self : (a.goto i phase).phase i = phase := by simp [goto]

theorem goto_of_ne (h : j ≠ i) : (a.goto i phase).phase j = a.phase j := by simp [goto, h]

@[simp] theorem goto_order : (a.goto i phase).order = a.order := rfl

@[simp] theorem goto_log : (a.goto i phase).log = a.log := rfl

end

-- ---------------------------------------------------------------------------
-- The order of the calls
-- ---------------------------------------------------------------------------

/-- One call after the other, the last one first, they lead from `s₀` to `s`
and get these replies, at times that do not decrease. -/
inductive Explains [LE τ] (apply : τ → κ → σ → ρ × σ) (s₀ : σ) (start : τ) :
    τ → List (Commit ι κ τ ρ) → σ → Prop
  | start : Explains apply s₀ start start [] s₀
  | call {t : τ} {order : List (Commit ι κ τ ρ)} {s : σ} (c : Commit ι κ τ ρ)
    (h : Explains apply s₀ start t order s) (hle : t ≤ c.time)
    (hreply : (apply c.time c.call s).1 = c.reply) :
    Explains apply s₀ start c.time (c :: order) (apply c.time c.call s).2

/-- A reply the thread has been given and not yet passed on. -/
def pending (i : ι) : CallPhase κ ρ → List (ι × κ × ρ)
  | .answered call reply => [(i, call, reply)]
  | _ => []

section
variable [DecidableEq ι] [LinearOrder τ] {apply : τ → κ → σ → ρ × σ} {s₀ : σ} {t₀ : τ}
  {a : AtomicObject ι κ σ τ ρ}

theorem explains_step (e : AtomicEvent ι κ τ)
    (h : ∃ t ≤ a.now, Explains apply s₀ t₀ t a.order a.shared) :
    ∃ t ≤ (a.step apply e).now, Explains apply s₀ t₀ t (a.step apply e).order
      (a.step apply e).shared := by
  obtain ⟨t, hle, h⟩ := h
  cases e with
  | tick t' => exact ⟨t, hle.trans (le_max_left _ _), h⟩
  | invoke i call =>
    simp only [step]
    split <;> exact ⟨t, hle, h⟩
  | respond i =>
    simp only [step]
    split <;> exact ⟨t, hle, h⟩
  | commit i =>
    simp only [step]
    split
    · next call _ => exact ⟨a.now, le_rfl, .call ⟨i, a.now, call, _⟩ h hle rfl⟩
    · exact ⟨t, hle, h⟩

/-- The state is explained by the calls in the order they were carried out. -/
theorem explains_play (events : List (AtomicEvent ι κ τ)) :
    ∃ t ≤ (play (step apply) (start s₀ t₀) events).now,
      Explains apply s₀ t₀ t (play (step apply) (start s₀ t₀) events).order
        (play (step apply) (start s₀ t₀) events).shared :=
  play_keeps (P := fun a : AtomicObject ι κ σ τ ρ =>
    ∃ t ≤ a.now, Explains apply s₀ t₀ t a.order a.shared) (fun _ e h => explains_step e h) events
    ⟨t₀, le_rfl, .start⟩

/-- The calls of one thread, in order, are those it has replies to and perhaps
one more. -/
def Ordered (a : AtomicObject ι κ σ τ ρ) : Prop :=
  ∀ i, (a.order.map Commit.answer).filter (fun x => x.1 = i) =
    pending i (a.phase i) ++ (a.log.filterMap Mark.answer).filter (fun x => x.1 = i)

theorem ordered_step (h : a.Ordered) (e : AtomicEvent ι κ τ) : (a.step apply e).Ordered := by
  intro j
  have hj := h j
  cases e with
  | tick t => exact hj
  | invoke i call =>
    simp only [step]
    split
    · next hi =>
      rcases eq_or_ne j i with rfl | hne
      · rw [hi] at hj
        simpa [List.filterMap_cons, pending] using hj
      · simpa [List.filterMap_cons, goto_of_ne hne] using hj
    · exact hj
  | commit i =>
    simp only [step]
    split
    · next call hi =>
      rcases eq_or_ne j i with rfl | hne
      · rw [hi] at hj
        simpa [Commit.answer, pending] using hj
      · simpa [Commit.answer, goto_of_ne hne, hne.symm] using hj
    · exact hj
  | respond i =>
    simp only [step]
    split
    · next call reply hi =>
      rcases eq_or_ne j i with rfl | hne
      · rw [hi] at hj
        simpa [List.filterMap_cons, pending] using hj
      · simpa [List.filterMap_cons, goto_of_ne hne, hne.symm] using hj
    · exact hj

theorem ordered_play (events : List (AtomicEvent ι κ τ)) :
    (play (step apply) (start s₀ t₀) events).Ordered :=
  play_keeps (P := Ordered) (fun _ e h => ordered_step h e) events fun _ => rfl

omit [LinearOrder τ] in
/-- Every reply that was passed on is of a call of its own. -/
theorem Ordered.subperm (h : a.Ordered) :
    (a.log.filterMap Mark.answer).Subperm (a.order.map Commit.answer) := by
  classical
  rw [List.subperm_ext_iff]
  intro x _
  have hx := congrArg (List.count x) (h x.1)
  rw [List.count_append, List.count_filter (by simp), List.count_filter (by simp)] at hx
  exact hx ▸ Nat.le_add_left _ _

omit [LinearOrder τ] in
theorem Ordered.perm (h : a.Ordered) (hidle : ∀ i, pending i (a.phase i) = []) :
    (a.order.map Commit.answer).Perm (a.log.filterMap Mark.answer) := by
  classical
  rw [List.perm_iff_count]
  intro x
  have hx := congrArg (List.count x) (h x.1)
  rw [hidle, List.nil_append, List.count_filter (by simp), List.count_filter (by simp)] at hx
  exact hx

end

-- ---------------------------------------------------------------------------
-- Allowed calls
-- ---------------------------------------------------------------------------

structure Calls (C : κ → Prop) (a : AtomicObject ι κ σ τ ρ) : Prop where
  waiting : ∀ i call, a.phase i = .waiting call → C call
  order : ∀ c ∈ a.order, C c.call

theorem calls_start (C : κ → Prop) (s : σ) (now : τ) :
    Calls C (start s now : AtomicObject ι κ σ τ ρ) :=
  ⟨fun _ _ h => (nomatch h), fun _ h => (nomatch h)⟩

section
variable [DecidableEq ι] [LinearOrder τ] {apply : τ → κ → σ → ρ × σ} {C : κ → Prop}
  {a : AtomicObject ι κ σ τ ρ} {i : ι} {phase : CallPhase κ ρ}

omit [LinearOrder τ] in
theorem Calls.goto_waiting (h : Calls C a) (hphase : ∀ call, phase = .waiting call → C call)
    (j : ι) (call : κ) (hj : (a.goto i phase).phase j = .waiting call) : C call := by
  rcases eq_or_ne j i with rfl | hne
  · rw [goto_self] at hj
    exact hphase call hj
  · rw [goto_of_ne hne] at hj
    exact h.waiting j call hj

theorem Calls.step (h : Calls C a) (e : AtomicEvent ι κ τ)
    (hc : ∀ i call, e = .invoke i call → C call) : Calls C (a.step apply e) := by
  cases e with
  | tick t => exact ⟨h.waiting, h.order⟩
  | invoke i call =>
    simp only [AtomicObject.step]
    split
    · refine ⟨h.goto_waiting ?_, h.order⟩
      rintro _ ⟨⟩
      exact hc i call rfl
    · exact h
  | commit i =>
    simp only [AtomicObject.step]
    split
    · next call hi =>
      refine ⟨h.goto_waiting fun _ hw => (nomatch hw), fun c hmem => ?_⟩
      rcases List.mem_cons.mp hmem with rfl | hmem
      · exact h.waiting i call hi
      · exact h.order c hmem
    · exact h
  | respond i =>
    simp only [AtomicObject.step]
    split
    · exact ⟨h.goto_waiting fun _ hw => (nomatch hw), h.order⟩
    · exact h

theorem Calls.play (h : Calls C a) {events : List (AtomicEvent ι κ τ)}
    (hc : ∀ i call, .invoke i call ∈ events → C call) :
    Calls C (CloudMonitor.play (AtomicObject.step apply) a events) := by
  induction events generalizing a with
  | nil => exact h
  | cons e events ih =>
    refine ih (h.step e fun i call he => hc i call (he ▸ List.mem_cons_self)) ?_
    exact fun i call he => hc i call (List.mem_cons_of_mem e he)

end

-- ---------------------------------------------------------------------------
-- Two objects with one log
-- ---------------------------------------------------------------------------

section
variable [DecidableEq ι] [LinearOrder τ] {σ' : Type} {apply : τ → κ → σ → ρ × σ}
  {apply' : τ → κ → σ' → ρ × σ'} {R : τ → σ → σ' → Prop} {C : κ → Prop}
  {a : AtomicObject ι κ σ τ ρ} {a' : AtomicObject ι κ σ' τ ρ}

structure Alike (R : τ → σ → σ' → Prop) (C : κ → Prop) (a : AtomicObject ι κ σ τ ρ)
    (a' : AtomicObject ι κ σ' τ ρ) : Prop where
  now : a.now = a'.now
  log : a.log = a'.log
  phase : a.phase = a'.phase
  shared : R a.now a.shared a'.shared
  calls : Calls C a

/-- Objects that answer allowed calls alike cannot be told apart by threads. -/
theorem Alike.step (hlater : ∀ t t' s s', R t s s' → t ≤ t' → R t' s s')
    (happly : ∀ t call s s', C call → R t s s' → (apply t call s).1 = (apply' t call s').1 ∧
      R t (apply t call s).2 (apply' t call s').2) (h : Alike R C a a') (e : AtomicEvent ι κ τ)
    (hc : ∀ i call, e = .invoke i call → C call) :
    Alike R C (a.step apply e) (a'.step apply' e) := by
  have hcalls : Calls C (a.step apply e) := h.calls.step e hc
  cases e with
  | tick t =>
    exact ⟨congrArg (max · t) h.now, h.log, h.phase, hlater _ _ _ _ h.shared (le_max_left _ _),
      hcalls⟩
  | invoke i call =>
    revert hcalls
    simp only [AtomicObject.step, ← h.phase]
    split
    · exact fun hcalls => ⟨h.now, by rw [h.log, h.now], by simp only [AtomicObject.goto, h.phase],
        h.shared, hcalls⟩
    · exact fun _ => h
  | commit i =>
    revert hcalls
    simp only [AtomicObject.step, ← h.phase]
    split
    · next call hi =>
      obtain ⟨hreply, hshared⟩ := happly a.now call _ _ (h.calls.waiting i call hi) h.shared
      rw [← h.now, ← hreply]
      exact fun hcalls => ⟨h.now, h.log, by simp only [AtomicObject.goto, h.phase], hshared, hcalls⟩
    · exact fun _ => h
  | respond i =>
    revert hcalls
    simp only [AtomicObject.step, ← h.phase]
    split
    · exact fun hcalls => ⟨h.now, by rw [h.log, h.now], by simp only [AtomicObject.goto, h.phase],
        h.shared, hcalls⟩
    · exact fun _ => h

theorem Alike.play (hlater : ∀ t t' s s', R t s s' → t ≤ t' → R t' s s')
    (happly : ∀ t call s s', C call → R t s s' → (apply t call s).1 = (apply' t call s').1 ∧
      R t (apply t call s).2 (apply' t call s').2) (h : Alike R C a a')
    {events : List (AtomicEvent ι κ τ)} (hc : ∀ i call, .invoke i call ∈ events → C call) :
    Alike R C (CloudMonitor.play (AtomicObject.step apply) a events)
      (CloudMonitor.play (AtomicObject.step apply') a' events) := by
  induction events generalizing a a' with
  | nil => exact h
  | cons e events ih =>
    refine ih (h.step hlater happly e fun i call he => hc i call (he ▸ List.mem_cons_self)) ?_
    exact fun i call he => hc i call (List.mem_cons_of_mem e he)

end

end AtomicObject

-- ---------------------------------------------------------------------------
-- From one to the other
-- ---------------------------------------------------------------------------

namespace LockedObject

variable {ι κ σ τ ρ : Type}

/-- What a thread looks like when a method is one step. -/
def seen (s : σ) : LockPhase κ σ ρ → CallPhase κ ρ
  | .idle => .idle
  | .waiting call | .entered call => .waiting call
  | .inside call left => .answered call (left.finish s).1
  | .leaving call reply => .answered call reply

def Holds : LockPhase κ σ ρ → Prop
  | .entered _ | .inside _ _ => True
  | _ => False

/-- The shared state as the method that holds the lock will leave it. -/
def settled (s : σ) : LockPhase κ σ ρ → σ
  | .inside _ left => (left.finish s).2
  | _ => s

/-- The atomic event a thread's step stands for. -/
def event (o : LockedObject ι κ σ τ ρ) : ThreadEvent ι κ τ → Option (AtomicEvent ι κ τ)
  | .tick t => some (.tick t)
  | .invoke i call => some (.invoke i call)
  | .act i =>
    match o.phase i with
    | .entered _ => some (.commit i)
    | .leaving _ _ => some (.respond i)
    | _ => none

structure Matches (o : LockedObject ι κ σ τ ρ) (a : AtomicObject ι κ σ τ ρ) : Prop where
  now : a.now = o.now
  log : a.log = o.log
  phase : ∀ i, a.phase i = seen o.shared (o.phase i)
  holder : ∀ i, o.holder = some i ↔ Holds (o.phase i)
  free : o.holder = none → a.shared = o.shared
  held : ∀ i, o.holder = some i → a.shared = settled o.shared (o.phase i)

theorem matches_start (s : σ) (now : τ) :
    Matches (start s now : LockedObject ι κ σ τ ρ) (.start s now) where
  now := rfl
  log := rfl
  phase _ := rfl
  holder i := iff_of_false (by simp [start]) (by simp [start, Holds])
  free _ := rfl
  held i h := by simp [start] at h

section
variable {o : LockedObject ι κ σ τ ρ} {a : AtomicObject ι κ σ τ ρ} {i j : ι}
  {phase : LockPhase κ σ ρ} {call : κ} {left : Micro σ ρ} {body : τ → κ → Micro σ ρ}
  {apply : τ → κ → σ → ρ × σ}

theorem seen_congr (h : ¬Holds phase) (s t : σ) : seen s phase = seen t phase := by
  cases phase with
  | inside call left => exact absurd trivial h
  | _ => rfl

/-- Thread `i` has moved; the others see a change of the state only if none of
them holds the lock. -/
theorem Matches.moved {o' : LockedObject ι κ σ τ ρ} {a' : AtomicObject ι κ σ τ ρ} (i : ι)
    (h : Matches o a) (hnow : a'.now = o'.now) (hlog : a'.log = o'.log)
    (hothers : ∀ j, j ≠ i → o'.phase j = o.phase j ∧ a'.phase j = a.phase j ∧
      (o'.holder = some j ↔ o.holder = some j))
    (hshared : o'.shared = o.shared ∨ Holds (o.phase i))
    (hphase : a'.phase i = seen o'.shared (o'.phase i))
    (hholder : o'.holder = some i ↔ Holds (o'.phase i))
    (hfree : o'.holder = none → a'.shared = o'.shared)
    (hheld : ∀ j, o'.holder = some j → a'.shared = settled o'.shared (o'.phase j)) :
    Matches o' a' where
  now := hnow
  log := hlog
  phase j := by
    rcases eq_or_ne j i with rfl | hj
    · exact hphase
    · obtain ⟨ho, ha, -⟩ := hothers j hj
      rw [ho, ha, h.phase j]
      rcases hshared with hs | hi
      · rw [hs]
      · refine seen_congr (fun hjh => hj ?_) _ _
        have heq := ((h.holder j).mpr hjh).symm.trans ((h.holder i).mpr hi)
        exact Option.some.inj heq
  holder j := by
    rcases eq_or_ne j i with rfl | hj
    · exact hholder
    · obtain ⟨ho, -, hj⟩ := hothers j hj
      rw [ho, hj]
      exact h.holder j
  free := hfree
  held := hheld

theorem Matches.not_held (h : Matches o a) (hi : ¬Holds (o.phase i)) : o.holder ≠ some i :=
  fun hh => hi ((h.holder i).mp hh)

variable [DecidableEq ι]

@[simp] theorem goto_self : (o.goto i phase).phase i = phase := by simp [goto]

theorem goto_of_ne (h : j ≠ i) : (o.goto i phase).phase j = o.phase j := by simp [goto, h]

theorem Matches.acquire (h : Matches o a) (hi : o.phase i = .waiting call)
    (hnone : o.holder = none) : Matches { o.goto i (.entered call) with holder := some i } a := by
  refine h.moved i h.now h.log (fun j hj => ⟨goto_of_ne hj, rfl, ?_⟩) (.inl rfl) ?_ ?_ ?_ ?_
  · simp [hnone, hj.symm]
  · rw [goto_self, h.phase i, hi]
    rfl
  · exact iff_of_true rfl (by rw [goto_self]; trivial)
  · exact fun hn => nomatch hn
  · rintro j ⟨⟩
    rw [goto_self]
    exact h.free hnone

/-- The clock is read: here the whole method takes effect. -/
theorem Matches.enter [Max τ] (hbody : ∀ t call s, (body t call).finish s = apply t call s)
    (h : Matches o a) (hi : o.phase i = .entered call) :
    Matches (o.goto i (.inside call (body o.now call))) (a.step apply (.commit i)) := by
  have hheld : o.holder = some i := (h.holder i).mpr (by rw [hi]; trivial)
  have hshared : a.shared = o.shared := by
    rw [h.held i hheld, hi]
    rfl
  have ha : a.phase i = .waiting call := by
    rw [h.phase i, hi]
    rfl
  simp only [AtomicObject.step, ha]
  rw [h.now, hshared, ← hbody]
  refine h.moved i h.now h.log (fun j hj => ⟨goto_of_ne hj, ?_, Iff.rfl⟩) (.inl rfl) ?_ ?_ ?_ ?_
  · exact AtomicObject.goto_of_ne hj
  · rw [goto_self, AtomicObject.goto_self]
    rfl
  · exact iff_of_true hheld (by rw [goto_self]; trivial)
  · exact fun hn => nomatch hheld.symm.trans hn
  · intro j hj
    obtain rfl : i = j := Option.some.inj (hheld.symm.trans hj)
    rw [goto_self]
    rfl

/-- What is left of a method changes nothing that others could see. -/
theorem Matches.inside (h : Matches o a) (hi : o.phase i = .inside call left) :
    Matches (o.act body i) a := by
  have hheld : o.holder = some i := (h.holder i).mpr (by rw [hi]; trivial)
  have hshared : a.shared = (left.finish o.shared).2 := by
    rw [h.held i hheld, hi]
    rfl
  have ha : a.phase i = .answered call (left.finish o.shared).1 := by
    rw [h.phase i, hi]
    rfl
  have hnone : o.holder ≠ none := fun hn => nomatch hheld.symm.trans hn
  have honly : ∀ j, o.holder = some j → i = j := fun j hj => Option.some.inj (hheld.symm.trans hj)
  cases left with
  | done reply =>
    simp only [LockedObject.act, hi]
    refine h.moved i h.now h.log (fun j hj => ⟨goto_of_ne hj, rfl, ?_⟩) (.inl rfl) ?_ ?_ ?_ ?_
    · simp [hheld, hj.symm]
    · rw [goto_self, ha]
      rfl
    · exact iff_of_false (fun hn => nomatch hn) (by rw [goto_self]; exact id)
    · exact fun _ => hshared
    · exact fun j hj => nomatch hj
  | read next =>
    simp only [LockedObject.act, hi]
    refine h.moved i h.now h.log (fun j hj => ⟨goto_of_ne hj, rfl, Iff.rfl⟩) (.inl rfl) ?_ ?_ ?_ ?_
    · rw [goto_self, ha]
      rfl
    · exact iff_of_true hheld (by rw [goto_self]; trivial)
    · exact fun hn => absurd hn hnone
    · intro j hj
      obtain rfl := honly j hj
      rw [goto_self]
      exact hshared
  | write f next =>
    simp only [LockedObject.act, hi]
    refine h.moved i h.now h.log (fun j hj => ⟨goto_of_ne hj, rfl, Iff.rfl⟩)
      (.inr (by rw [hi]; trivial)) ?_ ?_ ?_ ?_
    · rw [goto_self, ha]
      rfl
    · exact iff_of_true hheld (by rw [goto_self]; trivial)
    · exact fun hn => absurd hn hnone
    · intro j hj
      obtain rfl := honly j hj
      rw [goto_self]
      exact hshared

/-- A thread that is outside gets a new phase outside. -/
theorem Matches.outside {o' : LockedObject ι κ σ τ ρ} {a' : AtomicObject ι κ σ τ ρ}
    {p : LockPhase κ σ ρ} (h : Matches o a) (hi : ¬Holds (o.phase i)) (hp : ¬Holds p)
    (ho : o' = { o.goto i p with log := o'.log })
    (ha : a' = { a.goto i (seen o.shared p) with log := a'.log }) (hlog : a'.log = o'.log) :
    Matches o' a' := by
  rw [ho, ha]
  refine h.moved i h.now hlog (fun j hj => ⟨goto_of_ne hj, ?_, Iff.rfl⟩) (.inl rfl) ?_ ?_ h.free ?_
  · exact AtomicObject.goto_of_ne hj
  · rw [goto_self, AtomicObject.goto_self]
    rfl
  · exact iff_of_false (h.not_held hi) (by rwa [goto_self])
  · intro j hj
    have hne : j ≠ i := fun heq => h.not_held hi (heq ▸ hj)
    rw [goto_of_ne hne]
    exact h.held j hj

/-- The next step of a thread is one event of the atomic object, or none. -/
theorem Matches.act [Max τ] (hbody : ∀ t call s, (body t call).finish s = apply t call s)
    (h : Matches o a) (i : ι) :
    Matches (o.act body i) ((o.event (.act i)).elim a (a.step apply)) := by
  cases hi : o.phase i with
  | idle =>
    simp only [LockedObject.act, event, hi, Option.elim_none]
    exact h
  | waiting call =>
    simp only [LockedObject.act, event, hi, Option.elim_none]
    cases hholder : o.holder with
    | some j => exact h
    | none => exact h.acquire hi hholder
  | entered call =>
    simp only [LockedObject.act, event, hi, Option.elim_some]
    exact h.enter hbody hi
  | inside call left =>
    simp only [event, hi, Option.elim_none]
    exact h.inside hi
  | leaving call reply =>
    have ha : a.phase i = .answered call reply := by
      rw [h.phase i, hi]
      rfl
    simp only [LockedObject.act, event, hi, Option.elim_some, AtomicObject.step, ha]
    exact h.outside (p := .idle) (by rw [hi]; exact id) id rfl rfl (by rw [h.log, h.now])

theorem Matches.step [Max τ] (hbody : ∀ t call s, (body t call).finish s = apply t call s)
    (h : Matches o a) (e : ThreadEvent ι κ τ) :
    Matches (o.step body e) ((o.event e).elim a (a.step apply)) := by
  cases e with
  | tick t => exact { h with now := by simp only [AtomicObject.step, LockedObject.step, event,
      Option.elim_some, h.now] }
  | act i => exact h.act hbody i
  | invoke i call =>
    have ha := h.phase i
    simp only [LockedObject.step, event, Option.elim_some, AtomicObject.step]
    cases hi : o.phase i with
    | idle =>
      rw [hi] at ha
      simp only [ha, seen]
      exact h.outside (p := .waiting call) (by rw [hi]; exact id) id rfl rfl
        (by rw [h.log, h.now])
    | _ =>
      rw [hi] at ha
      simp only [ha, seen]
      exact h

-- ---------------------------------------------------------------------------
-- Whole schedules
-- ---------------------------------------------------------------------------

/-- The atomic events a schedule of the threads' steps stands for. -/
def events [Max τ] (body : τ → κ → Micro σ ρ) :
    LockedObject ι κ σ τ ρ → List (ThreadEvent ι κ τ) → List (AtomicEvent ι κ τ)
  | _, [] => []
  | o, e :: later => (o.event e).toList ++ events body (o.step body e) later

theorem invoke_mem_events [Max τ] {o : LockedObject ι κ σ τ ρ} {i : ι} {call : κ}
    {schedule : List (ThreadEvent ι κ τ)} (h : .invoke i call ∈ events body o schedule) :
    .invoke i call ∈ schedule := by
  induction schedule generalizing o with
  | nil => exact nomatch h
  | cons e later ih =>
    rcases List.mem_append.mp h with hhead | htail
    · cases e with
      | tick t => simp [event] at hhead
      | invoke j call' =>
        simp only [event, Option.toList_some, List.mem_singleton, AtomicEvent.invoke.injEq]
          at hhead
        obtain ⟨rfl, rfl⟩ := hhead
        exact List.mem_cons_self
      | act j =>
        simp only [event] at hhead
        split at hhead <;> simp at hhead
    · exact List.mem_cons_of_mem e (ih htail)

theorem matches_play [Max τ] (hbody : ∀ t call s, (body t call).finish s = apply t call s)
    (h : Matches o a) (schedule : List (ThreadEvent ι κ τ)) :
    Matches (play (step body) o schedule)
      (play (AtomicObject.step apply) a (events body o schedule)) := by
  induction schedule generalizing o a with
  | nil => exact h
  | cons e later ih =>
    have hnext := ih (h.step hbody e)
    rw [events, play_append, play_cons]
    cases he : o.event e with
    | none => rwa [he] at hnext
    | some e' => rwa [he] at hnext

end

end LockedObject

end CloudMonitor
