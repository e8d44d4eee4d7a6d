import CloudMonitor.Lib.Fallible
import CloudMonitor.Lib.Schedule
import Mathlib.Logic.Function.Basic

/-!
# Programs that interfere

Any number of programs work on one state, each a sequence of atomic
statements, and a schedule interleaves them. `Meets` says of one program what
its statements do to the state (its guarantee) as long as everything the
others do in between is what it relies on. Where every guarantee is what the
others rely on, all of it holds in every interleaving (`Interleaving.meets`).
-/

namespace CloudMonitor

open Fallible

/-- What a program has left to do. A statement changes the state, and what
follows depends on the state it found. -/
inductive Program (σ ε α : Type)
  | ret (a : α)
  | fail (e : ε)
  | stmt (act : σ → σ) (next : σ → Program σ ε α)

namespace Program

variable {σ ε α β : Type}

def bind : Program σ ε α → (α → Program σ ε β) → Program σ ε β
  | .ret a, f => f a
  | .fail e, _ => .fail e
  | .stmt act next, f => .stmt act fun s => (next s).bind f

instance : Monad (Program σ ε) where
  pure := .ret
  bind := bind

def ofExcept : Except ε α → Program σ ε α
  | .ok a => .ret a
  | .error e => .fail e

/-- A whole computation as one statement. -/
def atomic (x : Fallible σ ε α) : Program σ ε α :=
  .stmt (fun s => (x.run s).2) fun s => ofExcept (x.run s).1

/-- The program without anyone in between. -/
def alone : Program σ ε α → Fallible σ ε α
  | .ret a => pure a
  | .fail e => raise e
  | .stmt act next => fun s => (next s).alone (act s)

-- ---------------------------------------------------------------------------
-- Without anyone in between
-- ---------------------------------------------------------------------------

@[simp] theorem alone_pure (a : α) : (pure a : Program σ ε α).alone = pure a := rfl

@[simp] theorem alone_fail (e : ε) : (fail e : Program σ ε α).alone = raise e := rfl

@[simp] theorem alone_bind (x : Program σ ε α) (f : α → Program σ ε β) :
    (x >>= f).alone = x.alone >>= fun a => (f a).alone := by
  change (x.bind f).alone = _
  induction x with
  | ret a => rfl
  | fail e => rfl
  | stmt act next ih =>
    funext s
    exact congrFun (ih s) (act s)

@[simp] theorem alone_ite [Decidable c] (x y : Program σ ε α) :
    (if c then x else y).alone = if c then x.alone else y.alone := apply_ite alone c x y

@[simp] theorem alone_atomic (x : Fallible σ ε α) : (atomic x).alone = x := by
  funext s
  change (ofExcept (x.run s).1).alone.run (x.run s).2 = x.run s
  cases x.run s with
  | mk r s' => cases r <;> rfl

end Program

-- ---------------------------------------------------------------------------
-- Interleavings
-- ---------------------------------------------------------------------------

structure Interleaving (ι σ ε α : Type) where
  shared : σ
  program : ι → Program σ ε α

namespace Interleaving

variable {ι σ ε α : Type} [DecidableEq ι]

/-- One statement of a program; a program that is over does nothing. -/
def step (o : Interleaving ι σ ε α) (i : ι) : Interleaving ι σ ε α :=
  match o.program i with
  | .stmt act next =>
    { shared := act o.shared
      program := Function.update o.program i (next o.shared) }
  | _ => o

/-- Scheduled on its own, a program ends as `alone`. -/
theorem play_alone (p : Program σ ε α) {o : Interleaving ι σ ε α} {i : ι} (h : o.program i = p) :
    ∃ n, (play step o (List.replicate n i)).shared = (p.alone.run o.shared).2 ∧
      (play step o (List.replicate n i)).program i = .ofExcept (p.alone.run o.shared).1 := by
  induction p generalizing o with
  | ret a => exact ⟨0, rfl, h⟩
  | fail e => exact ⟨0, rfl, h⟩
  | stmt act next ih =>
    have hstep : o.step i =
        { shared := act o.shared, program := Function.update o.program i (next o.shared) } := by
      rw [step, h]
    obtain ⟨n, hshared, hprogram⟩ := ih o.shared (o := o.step i) (by rw [hstep]; simp)
    refine ⟨n + 1, ?_, ?_⟩
    · rw [List.replicate_succ, play_cons, hshared, hstep]
      rfl
    · rw [List.replicate_succ, play_cons, hprogram, hstep]
      rfl

end Interleaving

-- ---------------------------------------------------------------------------
-- Rely and guarantee
-- ---------------------------------------------------------------------------

/-- What holds of the state between any two statements, what everyone may rely
on across a statement of anyone, and what each program guarantees of its own. -/
structure Discipline (ι σ : Type) where
  inv : σ → Prop
  rely : σ → σ → Prop
  guar : ι → σ → σ → Prop
  rely_refl : ∀ s, rely s s
  rely_trans : ∀ {s t u}, rely s t → rely t u → rely s u
  guar_refl : ∀ i s, guar i s s
  guar_inv : ∀ {i s t}, inv s → guar i s t → inv t
  guar_rely : ∀ {i s t}, inv s → guar i s t → rely s t

section
variable {ι σ ε α β : Type} {D : Discipline ι σ} {i : ι} {s : σ}

/-- Every statement of the program keeps its guarantee, in whatever state the
others leave for it, and a result is then as `Q` says. -/
def Meets (D : Discipline ι σ) (i : ι) (Q : α → σ → Prop) : Program σ ε α → σ → Prop
  | .ret a, s => Q a s
  | .fail _, _ => True
  | .stmt act next, s => ∀ t, D.rely s t → D.inv t →
    D.guar i t (act t) ∧ Meets D i Q (next t) (act t)

/-- What the others do in between does not make it false. -/
def Discipline.Stable (D : Discipline ι σ) (P : σ → Prop) : Prop := ∀ s t, D.rely s t → P s → P t

theorem Meets.pure {Q : α → σ → Prop} {a : α} (h : Q a s) :
    Meets D i Q (Pure.pure a : Program σ ε α) s := h

theorem Meets.fail (Q : α → σ → Prop) (e : ε) : Meets D i Q (.fail e : Program σ ε α) s := trivial

theorem Meets.bind {P : α → σ → Prop} {Q : β → σ → Prop} {x : Program σ ε α}
    {f : α → Program σ ε β} (hx : Meets D i P x s) (hf : ∀ a t, P a t → Meets D i Q (f a) t) :
    Meets D i Q (x >>= f) s := by
  change Meets D i Q (x.bind f) s
  induction x generalizing s with
  | ret a => exact hf a s hx
  | fail e => trivial
  | stmt act next ih =>
    intro t hrely hinv
    obtain ⟨hguar, hnext⟩ := hx t hrely hinv
    exact ⟨hguar, ih t hnext⟩

theorem Meets.mono {P Q : α → σ → Prop} {p : Program σ ε α} (h : Meets D i P p s)
    (hq : ∀ a t, P a t → Q a t) : Meets D i Q p s := by
  induction p generalizing s with
  | ret a => exact hq a s h
  | fail e => trivial
  | stmt act next ih =>
    intro t hrely hinv
    obtain ⟨hguar, hnext⟩ := h t hrely hinv
    exact ⟨hguar, ih t hnext⟩

/-- One statement: what it does in any state the others may leave. -/
theorem Meets.atomic {Q : α → σ → Prop} {x : Fallible σ ε α}
    (h : ∀ t, D.rely s t → D.inv t →
      Triple x t (fun a u => D.guar i t u ∧ Q a u) (fun _ u => D.guar i t u)) :
    Meets D i Q (Program.atomic x) s := by
  intro t hrely hinv
  obtain ⟨hout⟩ := h t hrely hinv
  change D.guar i t (x.run t).2 ∧ Meets D i Q (.ofExcept (x.run t).1) (x.run t).2
  cases hrun : x.run t with
  | mk r u =>
    rw [hrun] at hout
    cases r with
    | ok a => exact hout
    | error e => exact ⟨hout, trivial⟩

theorem Meets.ite [Decidable c] {Q : α → σ → Prop} {x y : Program σ ε α}
    (hx : c → Meets D i Q x s) (hy : ¬c → Meets D i Q y s) :
    Meets D i Q (if c then x else y) s := by
  split
  · next h => exact hx h
  · next h => exact hy h

theorem Meets.stable {Q : α → σ → Prop} (hq : ∀ a, D.Stable (Q a)) {p : Program σ ε α} {t : σ}
    (h : Meets D i Q p s) (hrely : D.rely s t) : Meets D i Q p t := by
  cases p with
  | ret a => exact hq a s t hrely h
  | fail e => trivial
  | stmt act next => exact fun u hu hinv => h u (D.rely_trans hrely hu) hinv

end

-- ---------------------------------------------------------------------------
-- All programs together
-- ---------------------------------------------------------------------------

namespace Interleaving

section
variable {ι σ ε α : Type} {D : Discipline ι σ} {Q : ι → α → σ → Prop} {o : Interleaving ι σ ε α}

structure Sound (D : Discipline ι σ) (Q : ι → α → σ → Prop) (o : Interleaving ι σ ε α) : Prop where
  inv : D.inv o.shared
  meets : ∀ i, Meets D i (Q i) (o.program i) o.shared

variable [DecidableEq ι]

theorem Sound.guar (h : Sound D Q o) (i : ι) : D.guar i o.shared (o.step i).shared := by
  have hmeets := h.meets i
  unfold step
  cases hp : o.program i with
  | ret a => exact D.guar_refl i o.shared
  | fail e => exact D.guar_refl i o.shared
  | stmt act next =>
    rw [hp] at hmeets
    exact (hmeets o.shared (D.rely_refl _) h.inv).1

theorem Sound.step (h : Sound D Q o) (hq : ∀ i a, D.Stable (Q i a)) (i : ι) :
    Sound D Q (o.step i) := by
  have hguar := h.guar i
  refine ⟨D.guar_inv h.inv hguar, fun j => ?_⟩
  have hrely := D.guar_rely h.inv hguar
  have hother : Meets D j (Q j) (o.program j) (o.step i).shared :=
    (h.meets j).stable (hq j) hrely
  have hmeets := h.meets i
  unfold Interleaving.step at hother ⊢
  cases hp : o.program i with
  | ret a => rwa [hp] at hother
  | fail e => rwa [hp] at hother
  | stmt act next =>
    rw [hp] at hother hmeets
    by_cases hji : j = i
    · subst hji
      simpa using (hmeets o.shared (D.rely_refl _) h.inv).2
    · simpa [Function.update_of_ne hji] using hother

theorem Sound.play (h : Sound D Q o) (hq : ∀ i a, D.Stable (Q i a)) (schedule : List ι) :
    Sound D Q (CloudMonitor.play Interleaving.step o schedule) :=
  play_keeps (fun _ i ho => ho.step hq i) schedule h

theorem Sound.rely (h : Sound D Q o) (hq : ∀ i a, D.Stable (Q i a)) (schedule : List ι) :
    D.rely o.shared (CloudMonitor.play Interleaving.step o schedule).shared := by
  induction schedule generalizing o with
  | nil => exact D.rely_refl _
  | cons i schedule ih => exact D.rely_trans (D.guar_rely h.inv (h.guar i)) (ih (h.step hq i))

/-- Programs that meet their guarantees from the start meet them in every
interleaving, and what one has returned is as promised in every later state. -/
theorem meets (hinv : D.inv o.shared) (hmeets : ∀ i, Meets D i (Q i) (o.program i) o.shared)
    (hq : ∀ i a, D.Stable (Q i a)) (schedule : List ι) :
    let p := CloudMonitor.play Interleaving.step o schedule
    D.inv p.shared ∧ D.rely o.shared p.shared ∧ (∀ i, D.guar i p.shared (p.step i).shared) ∧
      ∀ i a, p.program i = .ret a → Q i a p.shared := by
  have hstart : Sound D Q o := ⟨hinv, hmeets⟩
  have hend := hstart.play hq schedule
  refine ⟨hend.inv, hstart.rely hq schedule, hend.guar, fun i a hret => ?_⟩
  have hi := hend.meets i
  rwa [hret] at hi

end

end Interleaving

end CloudMonitor
