import CloudMonitor.Lib.Fallible
import Mathlib.Data.Nat.Notation

/-!
# Statements that may fail

A computation whose statements are counted, with a schedule that says which
ones raise before they do anything. `Interrupted` compares it with the same
computation without failures: they agree as long as no statement failed, and
after a failure the durable part of the state is what it was at the start.
-/

namespace CloudMonitor

namespace Fallible

/-- A state with the number of statements tried so far. -/
structure Counted (σ : Type) where
  state : σ
  statements : ℕ := 0

section
variable {σ ε α β κ : Type} {fails : ℕ → Bool} {e : ε} {durable : σ → κ}

/-- A step that is no statement and is not counted. -/
def uncounted (x : Fallible σ ε α) : Fallible (Counted σ) ε α := fun c =>
  ((x.run c.state).1, { c with state := (x.run c.state).2 })

def statement (fails : ℕ → Bool) (e : ε) (x : Fallible σ ε α) : Fallible (Counted σ) ε α := fun c =>
  if fails c.statements then (.error e, { c with statements := c.statements + 1 })
  else ((x.run c.state).1, { state := (x.run c.state).2, statements := c.statements + 1 })

def Keeps (durable : σ → κ) (x : Fallible σ ε α) : Prop :=
  Within (fun s s' => durable s' = durable s) x

theorem Keeps.bind {x : Fallible σ ε α} {f : α → Fallible σ ε β} (hx : Keeps durable x)
    (hf : ∀ a, Keeps durable (f a)) : Keeps durable (x >>= f) :=
  Within.bind (R := fun s s' => durable s' = durable s) (fun h h' => h'.trans h) hx hf

/-- `x'` is `x` with its statements counted under the schedule. -/
def Interrupted (fails : ℕ → Bool) (e : ε) (durable : σ → κ) (x' : Fallible (Counted σ) ε α)
    (x : Fallible σ ε α) : Prop :=
  ∀ c, ∃ n, c.statements ≤ n ∧
    (((∀ k, c.statements ≤ k → k < n → fails k = false) ∧
        x'.run c = ((x.run c.state).1, { state := (x.run c.state).2, statements := n })) ∨
      ((∃ k, c.statements ≤ k ∧ k < n ∧ fails k = true) ∧
        ∃ s, x'.run c = (.error e, { state := s, statements := n }) ∧
          durable s = durable c.state))

theorem interrupted_uncounted (x : Fallible σ ε α) :
    Interrupted fails e durable (uncounted x) x :=
  fun c => ⟨c.statements, Nat.le_refl _, .inl ⟨fun _ h h' => absurd h (Nat.not_le.mpr h'), rfl⟩⟩

theorem interrupted_statement (x : Fallible σ ε α) :
    Interrupted fails e durable (statement fails e x) x := by
  intro c
  refine ⟨c.statements + 1, Nat.le_succ _, ?_⟩
  cases h : fails c.statements with
  | false =>
    refine .inl ⟨fun k hk hk' => ?_, if_neg (by simp [h])⟩
    rwa [show k = c.statements by omega]
  | true =>
    exact .inr ⟨⟨c.statements, Nat.le_refl _, Nat.lt_succ_self _, h⟩, c.state, if_pos h, rfl⟩

/-- What comes before a statement that fails must not be durable. -/
theorem Interrupted.bind {x' : Fallible (Counted σ) ε α} {x : Fallible σ ε α}
    {f' : α → Fallible (Counted σ) ε β} {f : α → Fallible σ ε β}
    (hx : Interrupted fails e durable x' x) (hkeeps : Keeps durable x)
    (hf : ∀ a, Interrupted fails e durable (f' a) (f a)) :
    Interrupted fails e durable (x' >>= f') (x >>= f) := by
  intro c
  obtain ⟨n, hn, ⟨hquiet, hrun⟩ | ⟨hfailed, s, hrun, hdurable⟩⟩ := hx c
  · have hkept := hkeeps c.state
    rw [run_bind, run_bind, hrun]
    cases hr : x.run c.state with
    | mk reply s =>
      rw [hr] at hkept
      cases reply with
      | error e' => exact ⟨n, hn, .inl ⟨hquiet, rfl⟩⟩
      | ok a =>
        obtain ⟨m, hm, ⟨hquiet', hrun'⟩ | ⟨⟨k, hk, hkm, hfail⟩, s', hrun', hdurable'⟩⟩ :=
          hf a { state := s, statements := n }
        · refine ⟨m, Nat.le_trans hn hm, .inl ⟨fun k hk hkm => ?_, hrun'⟩⟩
          rcases Nat.lt_or_ge k n with hlt | hge
          · exact hquiet k hk hlt
          · exact hquiet' k hge hkm
        · exact ⟨m, Nat.le_trans hn hm, .inr ⟨⟨k, Nat.le_trans hn hk, hkm, hfail⟩, s', hrun',
            hdurable'.trans hkept⟩⟩
  · exact ⟨n, hn, .inr ⟨hfailed, s, by rw [run_bind, hrun], hdurable⟩⟩

theorem interrupted_pure (a : α) :
    Interrupted fails e durable (pure a : Fallible (Counted σ) ε α) (pure a : Fallible σ ε α) :=
  interrupted_uncounted (pure a)

theorem Interrupted.map {x' : Fallible (Counted σ) ε α} {x : Fallible σ ε α}
    (hx : Interrupted fails e durable x' x) (f : α → β) :
    Interrupted fails e durable (x' >>= fun a => pure (f a)) (x >>= fun a => pure (f a)) := by
  intro c
  obtain ⟨n, hn, ⟨hquiet, hrun⟩ | ⟨hfailed, s, hrun, hdurable⟩⟩ := hx c
  · refine ⟨n, hn, .inl ⟨hquiet, ?_⟩⟩
    rw [run_bind, run_bind, hrun]
    cases x.run c.state with
    | mk reply s => cases reply <;> rfl
  · exact ⟨n, hn, .inr ⟨hfailed, s, by rw [run_bind, hrun], hdurable⟩⟩

theorem Interrupted.ite [Decidable c] {x' y' : Fallible (Counted σ) ε α} {x y : Fallible σ ε α}
    (hx : Interrupted fails e durable x' x) (hy : Interrupted fails e durable y' y) :
    Interrupted fails e durable (if c then x' else y') (if c then x else y) := by
  split
  · exact hx
  · exact hy

theorem interrupted_each {f' : α → Fallible (Counted σ) ε Unit} {f : α → Fallible σ ε Unit}
    (hf : ∀ a, Interrupted fails e durable (f' a) (f a)) (hkeeps : ∀ a, Keeps durable (f a))
    (as : List α) : Interrupted fails e durable (each f' as) (each f as) := by
  induction as with
  | nil => exact interrupted_pure ()
  | cons a as ih => exact (hf a).bind (hkeeps a) fun _ => ih

end

end Fallible

end CloudMonitor
