/-!
# Computations that write a state and may fail

`Fallible σ ε α` runs on a state and returns a value or raises an error; what
it wrote before it raised stays written. Four ways to reason about one
without unfolding it: `Triple` says what holds after a run from one state,
`Within` bounds how far any run may move the state, `Twin` compares two
runs of one computation from related states, and `Alike` two computations on
two kinds of state.
-/

namespace CloudMonitor

def Fallible (σ ε α : Type) : Type := σ → Except ε α × σ

namespace Fallible

def run (x : Fallible σ ε α) (s : σ) : Except ε α × σ := x s

def raise (e : ε) : Fallible σ ε α := fun s => (.error e, s)

def get : Fallible σ ε σ := fun s => (.ok s, s)

def modify (f : σ → σ) : Fallible σ ε Unit := fun s => (.ok (), f s)

instance : Monad (Fallible σ ε) where
  pure a := fun s => (.ok a, s)
  bind x f := fun s => match x s with
    | (.ok a, s') => f a s'
    | (.error e, s') => (.error e, s')

def each (f : α → Fallible σ ε Unit) : List α → Fallible σ ε Unit
  | [] => pure ()
  | a :: as => do f a; each f as

-- ---------------------------------------------------------------------------
-- Running
-- ---------------------------------------------------------------------------

@[simp] theorem run_pure (a : α) (s : σ) : (pure a : Fallible σ ε α).run s = (.ok a, s) := rfl

@[simp] theorem run_raise (e : ε) (s : σ) : (raise e : Fallible σ ε α).run s = (.error e, s) := rfl

@[simp] theorem run_get (s : σ) : (get : Fallible σ ε σ).run s = (.ok s, s) := rfl

@[simp] theorem run_modify (f : σ → σ) (s : σ) :
    (modify f : Fallible σ ε Unit).run s = (.ok (), f s) := rfl

@[simp] theorem run_bind (x : Fallible σ ε α) (f : α → Fallible σ ε β) (s : σ) :
    (x >>= f).run s = match x.run s with
      | (.ok a, s') => (f a).run s'
      | (.error e, s') => (.error e, s') := rfl

theorem bind_assoc (x : Fallible σ ε α) (f : α → Fallible σ ε β) (g : β → Fallible σ ε γ) :
    (x >>= f) >>= g = x >>= fun a => f a >>= g := by
  funext s
  change run ((x >>= f) >>= g) s = run (x >>= fun a => f a >>= g) s
  rw [run_bind, run_bind, run_bind]
  cases x.run s with
  | mk r s' => cases r <;> rfl

theorem pure_bind (a : α) (f : α → Fallible σ ε β) : pure a >>= f = f a := rfl

/-- What is made of the returned value does not touch the state. -/
theorem run_map (x : Fallible σ ε α) (f : α → β) (s : σ) :
    (x >>= fun a => pure (f a)).run s = ((x.run s).1.map f, (x.run s).2) := by
  rw [run_bind]
  cases x.run s with
  | mk r s' => cases r <;> rfl

theorem run_map_state (x : Fallible σ ε α) (f : α → β) (s : σ) :
    ((x >>= fun a => pure (f a)).run s).2 = (x.run s).2 := by
  rw [run_map]

theorem run_bind_ok {x : Fallible σ ε α} {s : σ} {a : α} (h : (x.run s).1 = .ok a)
    (f : α → Fallible σ ε β) : (x >>= f).run s = (f a).run (x.run s).2 := by
  rw [run_bind]
  cases hx : x.run s with
  | mk r s' =>
    rw [hx] at h
    obtain rfl : r = .ok a := h
    rfl

/-- A first step that answers under a condition and fails without it. -/
theorem run_bind_ite [Decidable c] {x : Fallible σ ε α} {s s₁ s₂ : σ} {a : α} {e : ε}
    (h : x.run s = if c then (.ok a, s₁) else (.error e, s₂)) (f : α → Fallible σ ε β) :
    (x >>= f).run s = if c then (f a).run s₁ else (.error e, s₂) := by
  rw [run_bind, h]
  by_cases hc : c
  · rw [if_pos hc, if_pos hc]
  · rw [if_neg hc, if_neg hc]

theorem run_ite [Decidable c] (x y : Fallible σ ε α) (s : σ) :
    (if c then x else y).run s = if c then x.run s else y.run s := by
  split <;> rfl

-- ---------------------------------------------------------------------------
-- One run: pre- and postconditions
-- ---------------------------------------------------------------------------

section
variable {σ ε α β : Type} {Q Q' : α → σ → Prop} {R : β → σ → Prop} {E E' : ε → σ → Prop}

/-- From `s`, a returned value satisfies `Q` and a raised error `E`, each with
the state it leaves. -/
structure Triple (x : Fallible σ ε α) (s : σ) (Q : α → σ → Prop) (E : ε → σ → Prop) : Prop where
  outcome : match x.run s with
    | (.ok a, s') => Q a s'
    | (.error e, s') => E e s'

theorem Triple.of_ok {x : Fallible σ ε α} (h : x.run s = (.ok a, s')) (hq : Q a s') :
    Triple x s Q E :=
  ⟨by simpa [h] using hq⟩

theorem Triple.pure (h : Q a s) : Triple (Pure.pure a : Fallible σ ε α) s Q E := ⟨h⟩

theorem Triple.raise (h : E e s) : Triple (Fallible.raise e : Fallible σ ε α) s Q E := ⟨h⟩

theorem Triple.bind {x : Fallible σ ε α} {f : α → Fallible σ ε β} (hx : Triple x s Q E)
    (hf : ∀ a s', Q a s' → Triple (f a) s' R E) : Triple (x >>= f) s R E := by
  obtain ⟨hx⟩ := hx
  constructor
  rw [run_bind]
  cases h : x.run s with
  | mk r s' =>
    rw [h] at hx
    cases r with
    | ok a => exact (hf a s' hx).outcome
    | error e => exact hx

theorem Triple.get_bind {f : σ → Fallible σ ε α} (h : Triple (f s) s Q E) :
    Triple (get >>= f) s Q E :=
  ⟨h.outcome⟩

theorem Triple.trivial (x : Fallible σ ε α) (s : σ) :
    Triple x s (fun _ _ => True) (fun _ _ => True) :=
  ⟨by split <;> exact True.intro⟩

theorem Triple.mono {x : Fallible σ ε α} (h : Triple x s Q E) (hq : ∀ a s', Q a s' → Q' a s')
    (he : ∀ e s', E e s' → E' e s') : Triple x s Q' E' := by
  obtain ⟨h⟩ := h
  constructor
  split at h
  · next hr => simpa [hr] using hq _ _ h
  · next hr => simpa [hr] using he _ _ h

theorem Triple.returned {x : Fallible σ ε α} (h : Triple x s Q E) (hr : (x.run s).1 = .ok a) :
    Q a (x.run s).2 := by
  obtain ⟨h⟩ := h
  split at h
  · next hrun =>
    rw [hrun] at hr ⊢
    obtain rfl : _ = a := Except.ok.inj hr
    exact h
  · next hrun => simp [hrun] at hr

theorem Triple.succeeds {x : Fallible σ ε α} (h : Triple x s Q (fun _ _ => False)) :
    ∃ a s', x.run s = (.ok a, s') ∧ Q a s' := by
  obtain ⟨h⟩ := h
  split at h
  · next a s' hrun => exact ⟨a, s', hrun, h⟩
  · exact h.elim

theorem Triple.ok {x : Fallible σ ε α} (h : Triple x s Q E) : Triple x s Q (fun _ _ => True) :=
  h.mono (fun _ _ h => h) (fun _ _ _ => True.intro)

theorem Triple.ite [Decidable c] {x y : Fallible σ ε α} (hx : c → Triple x s Q E)
    (hy : ¬c → Triple y s Q E) : Triple (if c then x else y) s Q E := by
  split
  · next h => exact hx h
  · next h => exact hy h

/-- When both outcomes promise the same about the state, so does the run. -/
theorem Triple.state {x : Fallible σ ε α} {P : σ → Prop}
    (h : Triple x s (fun _ s' => P s') (fun _ s' => P s')) :
    P (x.run s).2 := by
  obtain ⟨h⟩ := h
  split at h <;> next hr => rwa [hr]

end

-- ---------------------------------------------------------------------------
-- Any run: how far the state may move
-- ---------------------------------------------------------------------------

section
variable {σ ε α β : Type} {R : σ → σ → Prop}

/-- Every run, successful or not, moves the state along `R`. -/
def Within (R : σ → σ → Prop) (x : Fallible σ ε α) : Prop := ∀ s, R s (x.run s).2

theorem Within.pure (hr : ∀ s, R s s) (a : α) : Within R (Pure.pure a : Fallible σ ε α) := hr

theorem Within.raise (hr : ∀ s, R s s) (e : ε) : Within R (Fallible.raise e : Fallible σ ε α) := hr

theorem Within.bind (ht : ∀ {a b c}, R a b → R b c → R a c) {x : Fallible σ ε α}
    {f : α → Fallible σ ε β} (hx : Within R x) (hf : ∀ a, Within R (f a)) :
    Within R (x >>= f) := by
  intro s
  have h := hx s
  rw [run_bind]
  cases hr : x.run s with
  | mk r s' =>
    rw [hr] at h
    cases r with
    | ok a => exact ht h (hf a s')
    | error e => exact h

theorem Within.ite [Decidable c] {x y : Fallible σ ε α} (hx : Within R x) (hy : Within R y) :
    Within R (if c then x else y) := by
  split
  · exact hx
  · exact hy

-- ---------------------------------------------------------------------------
-- Two runs: what related states have in common
-- ---------------------------------------------------------------------------

/-- From related states the two runs return the same and leave related states. -/
def Twin (R : σ → σ → Prop) (x : Fallible σ ε α) : Prop :=
  ∀ s t, R s t → (x.run s).1 = (x.run t).1 ∧ R (x.run s).2 (x.run t).2

/-- From related states the two runs return the same; the states they leave
may differ. -/
def SameReply (R : σ → σ → Prop) (x : Fallible σ ε α) : Prop :=
  ∀ s t, R s t → (x.run s).1 = (x.run t).1

theorem Twin.reply {x : Fallible σ ε α} (h : Twin R x) : SameReply R x :=
  fun s t hst => (h s t hst).1

theorem Twin.pure (a : α) : Twin R (Pure.pure a : Fallible σ ε α) := fun _ _ h => ⟨rfl, h⟩

theorem Twin.raise (e : ε) : Twin R (Fallible.raise e : Fallible σ ε α) := fun _ _ h => ⟨rfl, h⟩

theorem Twin.bind {x : Fallible σ ε α} {f : α → Fallible σ ε β} (hx : Twin R x)
    (hf : ∀ a, Twin R (f a)) : Twin R (x >>= f) := by
  intro s t hst
  obtain ⟨hr, hs⟩ := hx s t hst
  simp only [run_bind]
  cases h : x.run s with
  | mk r s' =>
    cases h' : x.run t with
    | mk r' t' =>
      rw [h, h'] at hr hs
      obtain rfl : r = r' := hr
      cases r with
      | ok a => exact hf a s' t' hs
      | error e => exact ⟨rfl, hs⟩

theorem Twin.bind_reply {x : Fallible σ ε α} {f : α → Fallible σ ε β} (hx : Twin R x)
    (hf : ∀ a, SameReply R (f a)) : SameReply R (x >>= f) := by
  intro s t hst
  obtain ⟨hr, hs⟩ := hx s t hst
  simp only [run_bind]
  cases h : x.run s with
  | mk r s' =>
    cases h' : x.run t with
    | mk r' t' =>
      rw [h, h'] at hr hs
      obtain rfl : r = r' := hr
      cases r with
      | ok a => exact hf a s' t' hs
      | error e => rfl

theorem SameReply.mono {R' : σ → σ → Prop} {x : Fallible σ ε α} (h : SameReply R x)
    (hr : ∀ s t, R' s t → R s t) : SameReply R' x := fun s t hst => h s t (hr s t hst)

theorem SameReply.map {x : Fallible σ ε α} (hx : SameReply R x) (f : α → β) :
    SameReply R (x >>= fun a => Pure.pure (f a)) := by
  intro s t hst
  rw [run_map, run_map, hx s t hst]

theorem Twin.ite [Decidable c] {x y : Fallible σ ε α} (hx : Twin R x) (hy : Twin R y) :
    Twin R (if c then x else y) := by
  split
  · exact hx
  · exact hy

end

-- ---------------------------------------------------------------------------
-- Two computations: one that does what another does
-- ---------------------------------------------------------------------------

section
variable {σ τ ε α β : Type} {R : σ → τ → Prop} {s : σ} {t : τ}

/-- The two return the same and leave related states. -/
structure Alike (R : σ → τ → Prop) (x : Fallible σ ε α) (y : Fallible τ ε α) (s : σ) (t : τ) :
    Prop where
  reply : (x.run s).1 = (y.run t).1
  state : R (x.run s).2 (y.run t).2

theorem Alike.pure (h : R s t) (a : α) :
    Alike R (Pure.pure a : Fallible σ ε α) (Pure.pure a : Fallible τ ε α) s t := ⟨rfl, h⟩

theorem Alike.raise (h : R s t) (e : ε) :
    Alike R (Fallible.raise e : Fallible σ ε α) (Fallible.raise e : Fallible τ ε α) s t := ⟨rfl, h⟩

theorem Alike.left {x : Fallible σ ε α} {f : α → Fallible σ ε β} {y : Fallible τ ε β} {a : α}
    {s' : σ} (hx : x.run s = (.ok a, s')) (h : Alike R (f a) y s' t) : Alike R (x >>= f) y s t := by
  obtain ⟨hreply, hstate⟩ := h
  exact ⟨by rw [run_bind, hx]; exact hreply, by rw [run_bind, hx]; exact hstate⟩

theorem Alike.right {x : Fallible σ ε β} {y : Fallible τ ε α} {g : α → Fallible τ ε β} {a : α}
    {t' : τ} (hy : y.run t = (.ok a, t')) (h : Alike R x (g a) s t') : Alike R x (y >>= g) s t := by
  obtain ⟨hreply, hstate⟩ := h
  exact ⟨by rw [run_bind, hy]; exact hreply, by rw [run_bind, hy]; exact hstate⟩

/-- First steps that answer alike under a condition and fail alike without it. -/
theorem Alike.bind_ite [Decidable c] {x : Fallible σ ε α} {y : Fallible τ ε α}
    {f : α → Fallible σ ε β} {g : α → Fallible τ ε β} {a : α} {e : ε} {s₁ s₂ : σ} {t₁ t₂ : τ}
    (hx : x.run s = if c then (.ok a, s₁) else (.error e, s₂))
    (hy : y.run t = if c then (.ok a, t₁) else (.error e, t₂)) (he : ¬c → R s₂ t₂)
    (hf : c → Alike R (f a) (g a) s₁ t₁) : Alike R (x >>= f) (y >>= g) s t := by
  by_cases hc : c
  · obtain ⟨hreply, hstate⟩ := hf hc
    exact ⟨by rw [run_bind_ite hx, run_bind_ite hy, if_pos hc, if_pos hc]; exact hreply,
      by rw [run_bind_ite hx, run_bind_ite hy, if_pos hc, if_pos hc]; exact hstate⟩
  · exact ⟨by rw [run_bind_ite hx, run_bind_ite hy, if_neg hc, if_neg hc],
      by rw [run_bind_ite hx, run_bind_ite hy, if_neg hc, if_neg hc]; exact he hc⟩

theorem Alike.ite [Decidable c] {x x' : Fallible σ ε α} {y y' : Fallible τ ε α}
    (hx : c → Alike R x y s t) (hy : ¬c → Alike R x' y' s t) :
    Alike R (if c then x else x') (if c then y else y') s t := by
  split
  · next h => exact hx h
  · next h => exact hy h

end

end Fallible

end CloudMonitor
