import Mathlib.Data.List.Basic

/-!
# Schedules

A system that takes one event after another, in any order an environment
chooses. An event that cannot happen changes nothing, so every list of events
is a schedule, and an invariant needs to be kept by one step only.
-/

namespace CloudMonitor

section
variable {σ ε : Type} (step : σ → ε → σ)

def play (s : σ) (events : List ε) : σ := events.foldl step s

/-- Every event meets `C` in the state it happens in. -/
def Along (C : σ → ε → Prop) : σ → List ε → Prop
  | _, [] => True
  | s, e :: events => C s e ∧ Along C (step s e) events

/-- Every event meets `C` in the state it happens in, with the events that are
still to come. -/
def Ahead (C : σ → ε → List ε → Prop) : σ → List ε → Prop
  | _, [] => True
  | s, e :: events => C s e events ∧ Ahead C (step s e) events

/-- As long as `Q` holds, every event meets `C` in the state it happens in. -/
def While (Q : σ → Prop) (C : σ → ε → Prop) : σ → List ε → Prop
  | _, [] => True
  | s, e :: events => Q s → C s e ∧ While Q C (step s e) events

end

section
variable {σ ε : Type} {step : σ → ε → σ} {C D : σ → ε → Prop} {P : σ → Prop} {s : σ}

@[simp] theorem play_nil : play step s [] = s := rfl

@[simp] theorem play_cons (e : ε) (events : List ε) :
    play step s (e :: events) = play step (step s e) events := rfl

theorem play_append (es fs : List ε) : play step s (es ++ fs) = play step (play step s es) fs :=
  List.foldl_append

instance Along.decidable [∀ s e, Decidable (C s e)] : ∀ s events, Decidable (Along step C s events)
  | _, [] => isTrue trivial
  | s, e :: events =>
    have := Along.decidable (step s e) events
    inferInstanceAs (Decidable (C s e ∧ Along step C (step s e) events))

instance Ahead.decidable {C : σ → ε → List ε → Prop} [∀ s e es, Decidable (C s e es)] :
    ∀ s events, Decidable (Ahead step C s events)
  | _, [] => isTrue trivial
  | s, e :: events =>
    have : Decidable (Ahead step C (step s e) events) := Ahead.decidable _ events
    inferInstanceAs (Decidable (C s e events ∧ Ahead step C (step s e) events))

instance While.decidable {Q : σ → Prop} [DecidablePred Q] [∀ s e, Decidable (C s e)] :
    ∀ s events, Decidable (While step Q C s events)
  | _, [] => isTrue trivial
  | s, e :: events =>
    have : Decidable (While step Q C (step s e) events) := While.decidable _ events
    inferInstanceAs (Decidable (Q s → C s e ∧ While step Q C (step s e) events))

@[simp] theorem along_nil : Along step C s [] := trivial

@[simp] theorem along_cons {e : ε} {events : List ε} :
    Along step C s (e :: events) ↔ C s e ∧ Along step C (step s e) events := Iff.rfl

theorem while_of_not {Q : σ → Prop} (h : ¬Q s) (events : List ε) : While step Q C s events := by
  cases events with
  | nil => trivial
  | cons e events => exact fun hq => absurd hq h

theorem Along.append {es fs : List ε} :
    Along step C s (es ++ fs) ↔ Along step C s es ∧ Along step C (play step s es) fs := by
  induction es generalizing s with
  | nil => simp
  | cons e es ih => simp [ih, and_assoc]

theorem along_of_forall {events : List ε} (h : ∀ e ∈ events, ∀ s, C s e) (s : σ) :
    Along step C s events := by
  induction events generalizing s with
  | nil => trivial
  | cons e events ih =>
    exact ⟨h e List.mem_cons_self s, ih (fun e' he' => h e' (List.mem_cons_of_mem e he')) _⟩

theorem play_invariant (hstep : ∀ s e, P s → C s e → P (step s e)) {events : List ε} (h : P s)
    (hc : Along step C s events) : P (play step s events) := by
  induction events generalizing s with
  | nil => exact h
  | cons e events ih => exact ih (hstep s e h hc.1) hc.2

/-- An invariant that `C` keeps and that gives `D` at every step. -/
theorem Along.imp (hstep : ∀ s e, P s → C s e → D s e ∧ P (step s e)) {events : List ε} (h : P s)
    (hc : Along step C s events) : Along step D s events := by
  induction events generalizing s with
  | nil => trivial
  | cons e events ih =>
    obtain ⟨hd, hp⟩ := hstep s e h hc.1
    exact ⟨hd, ih hp hc.2⟩

/-- An invariant about the state and the events still to come, that `C` keeps
and that gives `D` at every step. -/
theorem Ahead.along {C : σ → ε → List ε → Prop} {P : σ → List ε → Prop}
    (hstep : ∀ s e es, P s (e :: es) → C s e es → D s e ∧ P (step s e) es) {events : List ε}
    (h : P s events) (hc : Ahead step C s events) : Along step D s events := by
  induction events generalizing s with
  | nil => trivial
  | cons e events ih =>
    obtain ⟨hd, hp⟩ := hstep s e events h hc.1
    exact ⟨hd, ih hp hc.2⟩

theorem Ahead.reached {C : σ → ε → List ε → Prop} {P : σ → List ε → Prop}
    (hstep : ∀ s e es, P s (e :: es) → C s e es → P (step s e) es) {es fs : List ε}
    (h : P s (es ++ fs)) (hc : Ahead step C s (es ++ fs)) : P (play step s es) fs := by
  induction es generalizing s with
  | nil => exact h
  | cons e es ih => exact ih (hstep s e (es ++ fs) h hc.1) hc.2

/-- Where the events still to come meet `D` too, they give `C`. -/
theorem Along.ahead {C : σ → ε → List ε → Prop} {P : σ → List ε → Prop}
    (hstep : ∀ s e es, P s (e :: es) → Along step D s (e :: es) → C s e es ∧ P (step s e) es)
    {events : List ε} (h : P s events) (hd : Along step D s events) : Ahead step C s events := by
  induction events generalizing s with
  | nil => trivial
  | cons e events ih =>
    obtain ⟨hc, hp⟩ := hstep s e events h hd
    exact ⟨hc, ih hp hd.2⟩

/-- Conditions that say the same of every state an invariant allows. -/
theorem Along.congr (hkeep : ∀ s e, P s → P (step s e)) (hstep : ∀ s e, P s → (C s e ↔ D s e))
    (h : P s) (events : List ε) : Along step C s events ↔ Along step D s events := by
  induction events generalizing s with
  | nil => exact Iff.rfl
  | cons e events ih => exact and_congr (hstep s e h) (ih (hkeep s e h))

theorem play_keeps (hstep : ∀ s e, P s → P (step s e)) (events : List ε) (h : P s) :
    P (play step s events) := by
  induction events generalizing s with
  | nil => exact h
  | cons e events ih => exact ih (hstep s e h)

end

end CloudMonitor
