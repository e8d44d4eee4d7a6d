import CloudMonitor.Lib.Schedule
import Mathlib.Data.List.Count
import Mathlib.Logic.Function.Basic

/-!
# Objects built on first use

A cell that is empty at first. A thread that finds it empty takes a lock, looks
again, and only then builds the object and stores it; building may fail. Every
read, write and step of the lock is a step of its own, and threads interleave
in any way. `once` says who gets what.
-/

namespace CloudMonitor

inductive OncePhase (α : Type)
  | idle
  | called
  | locking
  | checking
  | building
  | storing (a : α)
  | failing
  | unlocking
  | returning

inductive OnceEvent (ι : Type)
  | call (i : ι)
  | act (i : ι)

/-- What a call ends with: what the last read of the cell found, or the
exception of a failed construction. -/
inductive OnceOutcome (α : Type)
  | returned (found : Option α)
  | raised
  deriving DecidableEq

structure Once (ι α : Type) where
  cell : Option α
  holder : Option ι
  phase : ι → OncePhase α
  attempts : ℕ
  log : List (ι × OnceOutcome α)

namespace Once

section
variable {ι α : Type} [DecidableEq ι]

def start : Once ι α where
  cell := none
  holder := none
  phase _ := .idle
  attempts := 0
  log := []

def goto (o : Once ι α) (i : ι) (phase : OncePhase α) : Once ι α :=
  { o with phase := Function.update o.phase i phase }

/-- The next step of a thread; `build` has the outcome of each attempt to build
the object. A thread that finds the lock taken waits. -/
def act (build : ℕ → Option α) (o : Once ι α) (i : ι) : Once ι α :=
  match o.phase i with
  | .idle => o
  | .called => o.goto i (if o.cell.isNone then .locking else .returning)
  | .locking =>
    match o.holder with
    | none => { o.goto i .checking with holder := some i }
    | some _ => o
  | .checking => o.goto i (if o.cell.isNone then .building else .unlocking)
  | .building =>
    match build o.attempts with
    | some a => { o.goto i (.storing a) with attempts := o.attempts + 1 }
    | none =>
      { o.goto i .failing with attempts := o.attempts + 1, log := (i, .raised) :: o.log }
  | .storing a => { o.goto i .unlocking with cell := some a }
  | .failing => { o.goto i .idle with holder := none }
  | .unlocking => { o.goto i .returning with holder := none }
  | .returning => { o.goto i .idle with log := (i, .returned o.cell) :: o.log }

def step (build : ℕ → Option α) (o : Once ι α) : OnceEvent ι → Once ι α
  | .call i =>
    match o.phase i with
    | .idle => o.goto i .called
    | _ => o
  | .act i => o.act build i

end

-- ---------------------------------------------------------------------------
-- Attempts
-- ---------------------------------------------------------------------------

section
variable {ι α : Type}

def AllFailed (build : ℕ → Option α) (attempts : ℕ) : Prop := ∀ k < attempts, build k = none

/-- The last attempt succeeded, and no other. -/
def Built (build : ℕ → Option α) (attempts : ℕ) (a : α) : Prop :=
  ∃ k, attempts = k + 1 ∧ build k = some a ∧ AllFailed build k

def failures (build : ℕ → Option α) (attempts : ℕ) : ℕ :=
  (List.range attempts).countP fun k => (build k).isNone

def raised (log : List (ι × OnceOutcome α)) : ℕ :=
  log.countP fun e => match e.2 with
    | .raised => true
    | .returned _ => false

variable {build : ℕ → Option α} {n : ℕ} {a : α} {i : ι} {log : List (ι × OnceOutcome α)}

theorem AllFailed.succ (h : AllFailed build n) (hn : build n = none) :
    AllFailed build (n + 1) := fun k hk =>
  (Nat.lt_succ_iff_lt_or_eq.mp hk).elim (h k) fun e => e ▸ hn

theorem AllFailed.built (h : AllFailed build n) (hn : build n = some a) :
    Built build (n + 1) a := ⟨n, rfl, hn, h⟩

theorem failures_succ : failures build (n + 1) = failures build n +
    if (build n).isNone then 1 else 0 := by
  simp [failures, List.range_succ, List.countP_append, List.countP_cons]

theorem raised_pos (h : (i, .raised) ∈ log) : 0 < raised log :=
  List.countP_pos_iff.mpr ⟨_, h, rfl⟩

end

-- ---------------------------------------------------------------------------
-- What every step keeps
-- ---------------------------------------------------------------------------

def Holds {α : Type} : OncePhase α → Prop
  | .checking | .building | .storing _ | .failing | .unlocking => True
  | _ => False

section
variable {ι α : Type}

/-- What a thread relies on in this phase. -/
def Knows (build : ℕ → Option α) (cell : Option α) (attempts : ℕ) : OncePhase α → Prop
  | .building => cell = none ∧ AllFailed build attempts
  | .storing a => cell = none ∧ Built build attempts a
  | .unlocking | .returning => cell ≠ none
  | _ => True

structure Inv (build : ℕ → Option α) (o : Once ι α) : Prop where
  holder : ∀ i, o.holder = some i ↔ Holds (o.phase i)
  knows : ∀ i, Knows build o.cell o.attempts (o.phase i)
  empty : o.cell = none → AllFailed build o.attempts ∨ ∃ i a, o.phase i = .storing a
  full : ∀ a, o.cell = some a → Built build o.attempts a
  returned : ∀ e ∈ o.log, ∀ found, e.2 = .returned found → found = o.cell ∧ o.cell ≠ none
  raised : raised o.log = failures build o.attempts

theorem inv_start (build : ℕ → Option α) : Inv build (start : Once ι α) where
  holder i := iff_of_false (by simp [start]) (by simp [start, Holds])
  knows i := trivial
  empty _ := .inl fun k hk => (nomatch hk)
  full a h := nomatch h
  returned e he := nomatch he
  raised := rfl

end

section
variable {ι α : Type} {build : ℕ → Option α} {o o' : Once ι α} {i j : ι} {p : OncePhase α}

theorem Inv.alone (h : Inv build o) (hi : Holds (o.phase i)) (hj : Holds (o.phase j)) : j = i :=
  Option.some.inj (((h.holder j).mpr hj).symm.trans ((h.holder i).mpr hi))

/-- Outside the lock a thread relies on no more than a cell that is full. -/
theorem Knows.outside {cell cell' : Option α} {n n' : ℕ} (h : Knows build cell n p)
    (hp : ¬ Holds p) (hcell : cell ≠ none → cell' ≠ none) : Knows build cell' n' p := by
  cases p with
  | returning => exact hcell h
  | building | storing _ | unlocking => exact absurd trivial hp
  | idle | called | locking | checking | failing => trivial

/-- Nothing is built after an attempt that succeeded. -/
theorem Inv.single (h : Inv build o) : AllFailed build (o.attempts - 1) := by
  have hbuilt : ∀ {a}, Built build o.attempts a → AllFailed build (o.attempts - 1) := by
    rintro a ⟨k, hk, _, hfailed⟩
    rwa [hk, Nat.add_sub_cancel]
  cases hc : o.cell with
  | some a => exact hbuilt (h.full a hc)
  | none =>
    rcases h.empty hc with hfailed | ⟨i, a, hi⟩
    · exact fun k hk => hfailed k (Nat.lt_of_lt_of_le hk (Nat.sub_le _ _))
    · have hk := h.knows i
      rw [hi] at hk
      exact hbuilt hk.2

theorem Inv.returned_built (h : Inv build o) {found : Option α}
    (hi : (i, .returned found) ∈ o.log) :
    ∃ a, found = some a ∧ o.cell = some a ∧ Built build o.attempts a := by
  obtain ⟨rfl, hcell⟩ := h.returned _ hi _ rfl
  obtain ⟨a, ha⟩ := Option.ne_none_iff_exists'.mp hcell
  exact ⟨a, ha, ha, h.full a ha⟩

/-- A call that raises leaves the lock free. -/
theorem Inv.free (h : Inv build o) (hidle : ∀ i, ¬ Holds (o.phase i)) : o.holder = none :=
  Option.eq_none_iff_forall_ne_some.mpr fun i hi => hidle i ((h.holder i).mp hi)

variable [DecidableEq ι]

@[simp] theorem goto_phase_self : (o.goto i p).phase i = p := by simp [goto]

theorem goto_phase_of_ne (h : j ≠ i) : (o.goto i p).phase j = o.phase j := by simp [goto, h]

@[simp] theorem goto_cell : (o.goto i p).cell = o.cell := rfl

@[simp] theorem goto_log : (o.goto i p).log = o.log := rfl

theorem Inv.outside (h : Inv build o) (hi : ¬ Holds (o.phase i)) (hp : ¬ Holds p)
    (hknows : Knows build o.cell o.attempts p) : Inv build (o.goto i p) where
  holder j := by
    rcases eq_or_ne j i with rfl | hne
    · rw [goto_phase_self]
      exact iff_of_false (fun e => hi ((h.holder j).mp e)) hp
    · rw [goto_phase_of_ne hne]
      exact h.holder j
  knows j := by
    rcases eq_or_ne j i with rfl | hne
    · rw [goto_phase_self]
      exact hknows
    · rw [goto_phase_of_ne hne]
      exact h.knows j
  empty hcell := by
    refine (h.empty hcell).imp_right ?_
    rintro ⟨j, a, hj⟩
    have hne : j ≠ i := by
      rintro rfl
      exact hi (hj ▸ trivial)
    exact ⟨j, a, (goto_phase_of_ne hne).trans hj⟩
  full := h.full
  returned := h.returned
  raised := h.raised

theorem Inv.enter (h : Inv build o) (hfree : o.holder = none) :
    Inv build { o.goto i .checking with holder := some i } where
  holder j := by
    have hout : ¬ Holds (o.phase j) := fun hj => by simp [(h.holder j).mpr hj] at hfree
    rcases eq_or_ne j i with rfl | hne
    · simp [goto, Holds]
    · simpa [goto, hne, hne.symm] using hout
  knows j := by
    rcases eq_or_ne j i with rfl | hne
    · simp [goto, Knows]
    · simpa only [goto, Function.update_of_ne hne] using h.knows j
  empty hcell := by
    refine (h.empty hcell).imp_right ?_
    rintro ⟨j, a, hj⟩
    have hh := (h.holder j).mpr (hj ▸ trivial)
    rw [hfree] at hh
    cases hh
  full := h.full
  returned := h.returned
  raised := h.raised

/-- What the thread with the lock may do to the rest. -/
theorem Inv.inside (h : Inv build o) (hi : Holds (o.phase i)) (hp : Holds p)
    (ho : o'.phase = Function.update o.phase i p) (hholder : o'.holder = o.holder)
    (hcell : o.cell ≠ none → o'.cell = o.cell) (hknows : Knows build o'.cell o'.attempts p)
    (hempty : o'.cell = none → AllFailed build o'.attempts ∨ ∃ a, p = .storing a)
    (hfull : ∀ a, o'.cell = some a → Built build o'.attempts a)
    (hreturned : ∀ i found, (i, .returned found) ∈ o'.log → (i, .returned found) ∈ o.log)
    (hraised : Once.raised o'.log = failures build o'.attempts) : Inv build o' where
  holder j := by
    rw [hholder, h.holder j, ho]
    rcases eq_or_ne j i with rfl | hne
    · simp [hi, hp]
    · simp [hne]
  knows j := by
    rw [ho]
    rcases eq_or_ne j i with rfl | hne
    · simpa using hknows
    · rw [Function.update_of_ne hne]
      exact (h.knows j).outside (fun hj => hne (h.alone hi hj)) fun hc => (hcell hc) ▸ hc
  empty hc := (hempty hc).imp_right fun ⟨a, ha⟩ => ⟨i, a, by simp [ho, ha]⟩
  full := hfull
  returned := by
    rintro ⟨j, _⟩ he found rfl
    obtain ⟨rfl, hc⟩ := h.returned _ (hreturned j found he) _ rfl
    exact ⟨(hcell hc).symm, (hcell hc) ▸ hc⟩
  raised := hraised

theorem Inv.release (h : Inv build o) (hi : Holds (o.phase i)) (hp : ¬ Holds p)
    (hknows : Knows build o.cell o.attempts p) (hstoring : ∀ a, o.phase i ≠ .storing a) :
    Inv build { o.goto i p with holder := none } where
  holder j := by
    rcases eq_or_ne j i with rfl | hne
    · simpa [goto] using hp
    · simpa [goto, hne] using fun hj => hne (h.alone hi hj)
  knows j := by
    rcases eq_or_ne j i with rfl | hne
    · simpa [goto] using hknows
    · simp only [goto, Function.update_of_ne hne]
      exact (h.knows j).outside (fun hj => hne (h.alone hi hj)) id
  empty hcell := by
    refine .inl ((h.empty hcell).resolve_right ?_)
    rintro ⟨j, a, hj⟩
    obtain rfl := h.alone hi (j := j) (by rw [hj]; trivial)
    exact hstoring a hj
  full := h.full
  returned := h.returned
  raised := h.raised

omit [DecidableEq ι] in
theorem Inv.reply (h : Inv build o) (hcell : o.cell ≠ none) :
    Inv build { o with log := (i, .returned o.cell) :: o.log } where
  holder := h.holder
  knows := h.knows
  empty := h.empty
  full := h.full
  returned e he found hf := by
    rcases List.mem_cons.mp he with rfl | he
    · cases hf
      exact ⟨rfl, hcell⟩
    · exact h.returned e he found hf
  raised := h.raised

theorem Inv.act (h : Inv build o) (i : ι) : Inv build (o.act build i) := by
  have hk := h.knows i
  unfold Once.act
  cases hi : o.phase i with
  | idle => exact h
  | called =>
    refine h.outside (hi ▸ id) ?_ ?_
    · split <;> exact id
    · split
      · trivial
      · next hc => exact fun e => hc (by simp [e])
  | locking =>
    cases hfree : o.holder with
    | none => exact h.enter hfree
    | some k => exact h
  | checking =>
    have hin : Holds (o.phase i) := hi ▸ trivial
    cases hc : o.cell with
    | some a =>
      exact h.inside (p := .unlocking) hin trivial rfl rfl (fun _ => rfl) (by simp [Knows, hc])
        (by simp [hc]) h.full (fun _ _ => id) h.raised
    | none =>
      have hfailed : AllFailed build o.attempts := by
        refine (h.empty hc).resolve_right ?_
        rintro ⟨j, a, hj⟩
        obtain rfl := h.alone hin (j := j) (by rw [hj]; trivial)
        cases hi.symm.trans hj
      exact h.inside (p := .building) hin trivial rfl rfl (fun _ => rfl) ⟨hc, hfailed⟩
        (fun _ => .inl hfailed) h.full (fun _ _ => id) h.raised
  | building =>
    have hin : Holds (o.phase i) := hi ▸ trivial
    rw [hi] at hk
    obtain ⟨hc, hfailed⟩ := hk
    cases hb : build o.attempts with
    | some a =>
      refine h.inside (p := .storing a) hin trivial rfl rfl (fun _ => rfl)
        ⟨hc, hfailed.built hb⟩ (fun _ => .inr ⟨a, rfl⟩) (by simp [hc]) (fun _ _ => id) ?_
      simpa [failures_succ, hb] using h.raised
    | none =>
      refine h.inside (p := .failing) hin trivial rfl rfl (fun _ => rfl) trivial
        (fun _ => .inl (hfailed.succ hb)) (by simp [hc]) (by simp) ?_
      simpa [failures_succ, hb, Once.raised] using h.raised
  | storing a =>
    have hin : Holds (o.phase i) := hi ▸ trivial
    rw [hi] at hk
    refine h.inside (p := .unlocking) hin trivial rfl rfl (fun hc => absurd hk.1 hc)
      (by simp [Knows]) (by simp) ?_ (fun _ _ => id) h.raised
    rintro _ ⟨⟩
    exact hk.2
  | failing => exact h.release (hi ▸ trivial) id trivial fun a e => nomatch hi.symm.trans e
  | unlocking =>
    rw [hi] at hk
    exact h.release (hi ▸ trivial) id hk fun a e => nomatch hi.symm.trans e
  | returning =>
    rw [hi] at hk
    exact (h.outside (p := .idle) (hi ▸ id) id trivial).reply hk

theorem Inv.step (h : Inv build o) (e : OnceEvent ι) : Inv build (o.step build e) := by
  cases e with
  | act i => exact h.act i
  | call i =>
    simp only [Once.step]
    split
    · next hi => exact h.outside (hi ▸ id) id trivial
    · exact h

theorem inv_play (build : ℕ → Option α) (events : List (OnceEvent ι)) :
    Inv build (play (step build) start events) :=
  play_keeps (fun _ e h => h.step e) events (inv_start build)

end

end Once

end CloudMonitor
