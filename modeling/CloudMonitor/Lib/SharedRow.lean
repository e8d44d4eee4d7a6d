import CloudMonitor.Lib.Schedule
import Mathlib.Logic.Function.Basic

/-!
# Requests that decide on a copy

Any number of requests work on one stored row. Each loads a copy of it, decides
on the copy which statement to send, and later sends it to the row as it is by
then. With each copy goes the list of the statements committed since it was
loaded, newest first, and `Inv` says the row is the copy after those.
-/

namespace CloudMonitor

/-- The statement a request sends for its copy, if any, and what a statement
makes of the row; without a result it deletes it. -/
structure Protocol (ι τ ρ ω : Type) where
  decide : ι → τ → ρ → Option ω
  exec : ω → ρ → Option ρ

inductive CopyPhase (ρ ω : Type)
  | waiting
  | loaded (copy : ρ) (since : List ω)
  | done
  deriving DecidableEq

structure SharedRow (ι ρ ω : Type) where
  row : Option ρ
  phase : ι → CopyPhase ρ ω

def CopyPhase.push (w : ω) : CopyPhase ρ ω → CopyPhase ρ ω
  | .loaded copy since => .loaded copy (w :: since)
  | phase => phase

namespace SharedRow

section
variable {ι τ ρ ω : Type} [DecidableEq ι]

def start (row : Option ρ) : SharedRow ι ρ ω where
  row := row
  phase _ := .waiting

def goto (σ : SharedRow ι ρ ω) (i : ι) (phase : CopyPhase ρ ω) : SharedRow ι ρ ω :=
  { σ with phase := Function.update σ.phase i phase }

def commit (P : Protocol ι τ ρ ω) (σ : SharedRow ι ρ ω) (w : ω) : SharedRow ι ρ ω where
  row := σ.row.bind (P.exec w)
  phase i := (σ.phase i).push w

/-- One step of a request, with what the outside answers it in that step. -/
def step (P : Protocol ι τ ρ ω) (σ : SharedRow ι ρ ω) (e : ι × τ) : SharedRow ι ρ ω :=
  match σ.phase e.1 with
  | .waiting => σ.goto e.1 (match σ.row with
    | none => .done
    | some r => .loaded r [])
  | .loaded copy _ => (match P.decide e.1 e.2 copy with
    | none => σ
    | some w => σ.commit P w).goto e.1 .done
  | .done => σ

end

-- ---------------------------------------------------------------------------
-- The row is the copy after what was committed since
-- ---------------------------------------------------------------------------

section
variable {ι τ ρ ω : Type} {P : Protocol ι τ ρ ω} {σ : SharedRow ι ρ ω} {i : ι} {copy r : ρ}
  {since : List ω}

def replay (P : Protocol ι τ ρ ω) (since : List ω) (copy : ρ) : Option ρ :=
  since.foldr (fun w row => row.bind (P.exec w)) (some copy)

@[simp] theorem replay_cons (w : ω) :
    replay P (w :: since) copy = (replay P since copy).bind (P.exec w) := rfl

def Inv (P : Protocol ι τ ρ ω) (σ : SharedRow ι ρ ω) : Prop :=
  ∀ i copy since, σ.phase i = .loaded copy since → σ.row = replay P since copy

theorem inv_start (row : Option ρ) : Inv P (start row : SharedRow ι ρ ω) := by
  intro i copy since h
  simp [start] at h

variable [DecidableEq ι]

theorem goto_phase_self (phase : CopyPhase ρ ω) : (σ.goto i phase).phase i = phase := by
  simp [goto]

theorem goto_phase_of_ne {j : ι} (h : j ≠ i) (phase : CopyPhase ρ ω) :
    (σ.goto i phase).phase j = σ.phase j := by
  simp [goto, h]

theorem Inv.goto (h : Inv P σ) {phase : CopyPhase ρ ω}
    (hphase : ∀ copy since, phase = .loaded copy since → σ.row = replay P since copy) :
    Inv P (σ.goto i phase) := by
  intro j copy since hj
  by_cases hji : j = i
  · subst hji
    rw [goto_phase_self] at hj
    exact hphase copy since hj
  · rw [goto_phase_of_ne hji] at hj
    exact h j copy since hj

omit [DecidableEq ι] in
theorem Inv.commit (h : Inv P σ) (w : ω) : Inv P (σ.commit P w) := by
  intro j copy since hj
  simp only [SharedRow.commit] at hj ⊢
  cases hphase : σ.phase j with
  | waiting | done => simp [hphase, CopyPhase.push] at hj
  | loaded copy' since' =>
    simp only [hphase, CopyPhase.push, CopyPhase.loaded.injEq] at hj
    obtain ⟨rfl, rfl⟩ := hj
    rw [replay_cons, h j _ _ hphase]

theorem Inv.step (h : Inv P σ) (e : ι × τ) : Inv P (σ.step P e) := by
  cases hphase : σ.phase e.1 with
  | waiting =>
    simp only [SharedRow.step, hphase]
    refine h.goto fun copy since hcopy => ?_
    cases hrow : σ.row with
    | none => simp [hrow] at hcopy
    | some r =>
      simp only [hrow, CopyPhase.loaded.injEq] at hcopy
      obtain ⟨rfl, rfl⟩ := hcopy
      rfl
  | loaded copy since =>
    simp only [SharedRow.step, hphase]
    cases P.decide e.1 e.2 copy with
    | none => exact h.goto fun _ _ hd => by simp at hd
    | some w => exact (h.commit w).goto fun _ _ hd => by simp at hd
  | done =>
    simp only [SharedRow.step, hphase]
    exact h

theorem play_alone (P : Protocol ι τ ρ ω) (r : ρ) (i : ι) (s t : τ) :
    (play (step P) (start (some r)) [(i, s), (i, t)]).row =
      match P.decide i t r with
      | none => some r
      | some w => P.exec w r := by
  simp only [play_cons, play_nil, SharedRow.step, start, SharedRow.goto, Function.update_self]
  cases P.decide i t r with
  | none => rfl
  | some w => rfl

end

-- ---------------------------------------------------------------------------
-- One column of the row
-- ---------------------------------------------------------------------------

/-- A part of the row, and the value a statement sets it to, if it does. -/
structure Column (P : Protocol ι τ ρ ω) (κ : Type) where
  get : ρ → κ
  set? : ω → Option κ
  get_exec : ∀ {w r r'}, P.exec w r = some r' → get r' = (set? w).getD (get r)

section
variable {ι τ ρ ω κ : Type} {P : Protocol ι τ ρ ω} {σ : SharedRow ι ρ ω} {i : ι} {copy r : ρ}
  {since : List ω}

/-- The value the column was last set to since the copy was loaded. -/
def Column.lastSet (c : Column P κ) (since : List ω) : Option κ := since.findSome? c.set?

theorem Column.get_replay (c : Column P κ) (h : replay P since copy = some r) :
    c.get r = (c.lastSet since).getD (c.get copy) := by
  induction since generalizing r with
  | nil =>
    obtain rfl : copy = r := Option.some.inj h
    rfl
  | cons w since ih =>
    obtain ⟨r', hr', hexec⟩ := Option.bind_eq_some_iff.mp h
    rw [c.get_exec hexec, ih hr']
    cases hset : c.set? w with
    | none => simp [lastSet, hset]
    | some v => simp [lastSet, hset]

theorem Inv.column (h : Inv P σ) (c : Column P κ) (hphase : σ.phase i = .loaded copy since)
    (hrow : σ.row = some r) : c.get r = (c.lastSet since).getD (c.get copy) :=
  c.get_replay ((h i copy since hphase).symm.trans hrow)

end

end SharedRow

end CloudMonitor
