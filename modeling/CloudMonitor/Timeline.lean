import CloudMonitor.Atomicity
import CloudMonitor.Detections
import CloudMonitor.History

/-!
# The timeline of alerts

An alert says what its instance was at some moment of the past, and was open
from its detection to its resolution. Along a run both are true: the instance
was in the state the alert speaks of and has existed ever since, and for one
instance and one type no two alerts were open at a time.
-/

namespace CloudMonitor

open Fallible

-- ---------------------------------------------------------------------------
-- Where an alert comes from
-- ---------------------------------------------------------------------------

/-- The row an alert was raised for: it met the scan's condition at an instant
not after the detection. -/
def Warrants (env : Env) (a : Alert) (i : Instance) : Prop :=
  i.id = a.instanceId ∧ ∃ now ≤ a.detectedAt,
    (detectionJob env now none a.alertType).condition i = true ∧
    a.message = (detectionJob env now none a.alertType).message i

/-- The step from `w` to `w'` raised the alert. -/
def Raised (env : Env) (w w' : World) (a : Alert) : Prop :=
  ∃ i ∈ w.db.instances, Warrants env a i ∧
    ∃ n, w.tick ≤ n ∧ n < w'.tick ∧ a.detectedAt = env.clock n

def Traced (env : Env) (w w' : World) : Prop :=
  ∀ a ∈ w'.db.alerts, a ∈ w.db.alerts ∨ (∃ b ∈ w.db.alerts, ∃ t, a = b.resolve t) ∨
    Raised env w w' a

def AddsNoAlert (s s' : Session) : Prop :=
  (∀ a ∈ s.view.alerts, a ∈ s.committed.alerts) →
    (∀ a ∈ s'.committed.alerts, a ∈ s.committed.alerts) ∧
    ∀ a ∈ s'.view.alerts, a ∈ s'.committed.alerts

theorem AddsNoAlert.trans {s s' s'' : Session} (h : AddsNoAlert s s') (h' : AddsNoAlert s' s'') :
    AddsNoAlert s s'' := by
  intro hs
  obtain ⟨hcommitted, hview⟩ := h hs
  obtain ⟨hcommitted', hview'⟩ := h' hview
  exact ⟨fun a ha => hcommitted a (hcommitted' a ha), hview'⟩

theorem Quiet.addsNoAlert (h : Quiet s s') : AddsNoAlert s s' := by
  obtain ⟨hcommitted, hview, -⟩ := h
  intro hs
  rw [hcommitted, hview]
  exact ⟨fun _ ha => ha, hs⟩

section
variable {α β : Type}

def NoAlert (x : Svc α) : Prop := Within AddsNoAlert x

theorem Reads.noAlert {x : Svc α} (hx : Reads x) : NoAlert x := fun s => (hx s).addsNoAlert

theorem NoAlert.bind {x : Svc α} {f : α → Svc β} (hx : NoAlert x) (hf : ∀ a, NoAlert (f a)) :
    NoAlert (x >>= f) := Within.bind (R := AddsNoAlert) AddsNoAlert.trans hx hf

theorem NoAlert.map {x : Svc α} (hx : NoAlert x) (f : α → β) :
    NoAlert (x >>= fun a => Pure.pure (f a)) := hx.bind fun a => (Reads.pure (f a)).noAlert

theorem NoAlert.ite [Decidable c] {x y : Svc α} (hx : NoAlert x) (hy : NoAlert y) :
    NoAlert (if c then x else y) := Within.ite hx hy

theorem NoAlert.commit : NoAlert commit := fun _ hs => ⟨hs, fun _ ha => ha⟩

end

section
variable {env : Env} {w : World} {α β : Type}

/-- Whatever the outcome, each alert is an old one or was raised. -/
def Traces (env : Env) (w : World) (x : Svc α) : Prop :=
  Triple x w.session (fun _ s' => Traced env w s'.world) (fun _ s' => Traced env w s'.world)

theorem Traced.refl (w : World) : Traced env w w := fun _ ha => .inl ha

theorem Traces.world {x : Svc α} (h : Traces env w x) :
    Traced env w (x.run w.session).2.world :=
  Triple.state (P := fun s : Session => Traced env w s.world) h

theorem Traces.guard {x : Svc α} {f : α → Svc β} {Q : α → Prop}
    (hx : Triple x w.session (fun a s' => s' = w.session ∧ Q a) (fun _ s' => s' = w.session))
    (hf : ∀ a, Q a → Traces env w (f a)) : Traces env w (x >>= f) := by
  refine Triple.bind (hx.mono (fun _ _ h => h) ?_) ?_
  · rintro _ _ rfl
    exact Traced.refl w
  · rintro a _ ⟨rfl, ha⟩
    exact hf a ha

theorem Traces.map {x : Svc α} (hx : Traces env w x) (f : α → β) :
    Traces env w (x >>= fun a => Pure.pure (f a)) := Triple.bind hx fun _ _ h => Triple.pure h

/-- The alert was raised in this run, for an instance that has been there ever
since. -/
def RaisedIn (env : Env) (worlds : List World) (a : Alert) : Prop :=
  ∃ later v' v earlier, worlds = later ++ v' :: v :: earlier ∧ Raised env v v' a ∧
    ∀ u ∈ later ++ [v'], a.instanceId ∈ u.db.instances.ids

theorem RaisedIn.cons {worlds : List World} {a : Alert} (h : RaisedIn env worlds a)
    (hi : a.instanceId ∈ w.db.instances.ids) : RaisedIn env (w :: worlds) a := by
  obtain ⟨later, v', v, earlier, rfl, hraised, hsince⟩ := h
  refine ⟨w :: later, v', v, earlier, rfl, hraised, fun u hu => ?_⟩
  rcases List.mem_cons.mp hu with rfl | hu
  · exact hi
  · exact hsince u hu

theorem RaisedIn.resolve {worlds : List World} {b : Alert} (h : RaisedIn env worlds b) (t : ℤ) :
    RaisedIn env worlds (b.resolve t) := h

/-- The first alert was over when the second was detected. -/
def OverBefore (a b : Alert) : Prop := ∃ t ∈ a.resolvedAt, t ≤ b.detectedAt

structure Periods (env : Env) (w : World) : Prop where
  apart : ∀ a ∈ w.db.alerts, ∀ b ∈ w.db.alerts, a.instanceId = b.instanceId →
    a.alertType = b.alertType → a ≠ b → OverBefore a b ∨ OverBefore b a
  past : ∀ a ∈ w.db.alerts, ∀ t ∈ a.resolvedAt, ∀ n, w.tick ≤ n → t ≤ env.clock n

end

section
variable {env : Env} {ids : Option Select} {w w' : World}

theorem Periods.over (hp : Periods env w) (wf : WellFormed env w) {a b : Alert} {n : ℕ}
    (ha : a ∈ w.db.alerts) (hresolved : a.isResolved = true) (hb : b.detectedAt = env.clock n)
    (hn : w.tick ≤ n) : OverBefore a b := by
  obtain ⟨t, ht⟩ := Option.isSome_iff_exists.mp ((wf.coherent a ha).1.mp hresolved)
  refine ⟨t, ht, ?_⟩
  rw [hb]
  exact hp.past a ha t ht n hn

/-- A new alert is unresolved, so the old ones of its instance and type are over. -/
theorem Periods.scan (hp : Periods env w) (wf : WellFormed env w) (job : ScanJob) {k : ℕ}
    (hk : w.tick ≤ k) (a b : Alert)
    (ha : a ∈ addAlerts env k (missingAlerts job w.db.alerts (scanMatches job w.db)) w.db.alerts)
    (hb : b ∈ addAlerts env k (missingAlerts job w.db.alerts (scanMatches job w.db)) w.db.alerts)
    (hinst : a.instanceId = b.instanceId) (hty : a.alertType = b.alertType) (hne : a ≠ b) :
    OverBefore a b ∨ OverBefore b a := by
  have hone : a.isResolved = false → b.isResolved = false → False := fun haun hbun =>
    hne (wf.one_unresolved.scan job a ha b hb hinst hty haun hbun)
  rcases mem_addAlerts ha with haold | ⟨x, -, n, hn, -, hrow⟩
  · rcases mem_addAlerts hb with hbold | ⟨y, -, n, hn, -, hrow⟩
    · exact hp.apart a haold b hbold hinst hty hne
    · refine .inl (hp.over wf haold ?_ (congrArg Alert.detectedAt hrow) (hk.trans hn))
      by_contra hun
      exact hone (Bool.not_eq_true _ ▸ hun) (congrArg Alert.isResolved hrow)
  · have haun : a.isResolved = false := congrArg Alert.isResolved hrow
    rcases mem_addAlerts hb with hbold | ⟨y, -, n', -, -, hrow'⟩
    · refine .inr (hp.over wf hbold ?_ (congrArg Alert.detectedAt hrow) (hk.trans hn))
      by_contra hun
      exact hone haun (Bool.not_eq_true _ ▸ hun)
    · exact (hone haun (congrArg Alert.isResolved hrow')).elim

/-- An alert that is being resolved was open, so it is the later one of any two. -/
theorem Periods.resolve (hp : Periods env w) (wf : WellFormed env w) {a b : Alert}
    (ha : a ∈ w.db.alerts) (hb : b ∈ w.db.alerts) (hun : a.isResolved = false)
    (hinst : a.instanceId = b.instanceId) (hty : a.alertType = b.alertType) (hne : a ≠ b) :
    OverBefore b a := by
  refine (hp.apart a ha b hb hinst hty hne).resolve_left ?_
  rintro ⟨t, ht, -⟩
  have hresolved := (wf.coherent a ha).1.mpr (Option.isSome_iff_exists.mpr ⟨t, ht⟩)
  rw [hun] at hresolved
  cases hresolved

end

-- An instance in `ERROR` is detected, its alert is resolved, and it is detected again.

end CloudMonitor
