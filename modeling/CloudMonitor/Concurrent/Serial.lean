import CloudMonitor.Concurrent.Status

/-!
# Two updates of one instance

When both requests load before either writes, the second `UPDATE` leaves out
the columns it restates from its copy, and so keeps there what the first has
set. `Mixes` says when the row then has one column of each request and is what
neither order of the two would have left.
-/

namespace CloudMonitor

open Fallible

def Instance.statusAndCpu (r : Instance) : InstanceStatus × ℚ := (r.status, r.cpuUsage)

/-- What an update that is alone makes of the two columns. -/
def InstanceStatusUpdate.outcome (body : InstanceStatusUpdate) (p : InstanceStatus × ℚ) :
    InstanceStatus × ℚ :=
  (body.status, body.nextCpuUsage.getD p.2)

/-- What an update decided on a copy makes of the row it reaches. -/
def InstanceStatusUpdate.written (body : InstanceStatusUpdate) (copy row : InstanceStatus × ℚ) :
    InstanceStatus × ℚ :=
  ((changed copy.1 body.status).getD row.1,
    (changed copy.2 (body.nextCpuUsage.getD copy.2)).getD row.2)

/-- `second` restates one column of the copy and changes the other; `first`
changes the restated column, and asks for another value of the changed one. -/
def Mixes (first second : InstanceStatusUpdate) (copy : InstanceStatus × ℚ) : Prop :=
  (second.status = copy.1 ∧ first.status ≠ copy.1 ∧
    ∃ cpu ∈ second.nextCpuUsage, cpu ≠ copy.2 ∧ ∃ other ∈ first.nextCpuUsage, other ≠ cpu) ∨
  (second.nextCpuUsage = some copy.2 ∧ (∃ cpu ∈ first.nextCpuUsage, cpu ≠ copy.2) ∧
    second.status ≠ copy.1 ∧ first.status ≠ second.status)

theorem changed_of_ne [DecidableEq α] {loaded new : α} (h : loaded ≠ new) :
    changed loaded new = some new := if_neg h

theorem changed_self [DecidableEq α] (a : α) : changed a a = none := if_pos rfl

theorem written_self (body : InstanceStatusUpdate) (p : InstanceStatus × ℚ) :
    body.written p p = body.outcome p := by
  simp [InstanceStatusUpdate.written, InstanceStatusUpdate.outcome]

/-- Written over the outcome of `first`, `second` leaves what one of the two
orders leaves, unless the two mix. -/
theorem written_serial_iff (first second : InstanceStatusUpdate) (p : InstanceStatus × ℚ) :
    (second.written p (first.outcome p) = second.outcome (first.outcome p) ∨
        second.written p (first.outcome p) = first.outcome (second.outcome p)) ↔
      ¬Mixes first second p := by
  obtain ⟨status, cpu⟩ := p
  simp only [InstanceStatusUpdate.written, InstanceStatusUpdate.outcome, Mixes]
  by_cases hstatus : second.status = status
  · -- the first sets the status, so the second may not overrule its reading
    rw [hstatus, changed_self]
    cases second.nextCpuUsage with
    | none => simp [changed_self]
    | some c =>
      by_cases hc : c = cpu
      · subst hc
        cases first.nextCpuUsage <;> simp [changed_self]
      · cases first.nextCpuUsage with
        | none => simp [changed_of_ne (Ne.symm hc)]
        | some c' =>
          simpa [changed_of_ne (Ne.symm hc), hc, eq_comm (a := c)] using
            or_iff_not_imp_left (a := first.status = status) (b := c' = c)
  · rw [changed_of_ne (Ne.symm hstatus)]
    cases second.nextCpuUsage with
    | none => simp [changed_self]
    | some c =>
      by_cases hc : c = cpu
      · subst hc
        cases first.nextCpuUsage with
        | none => simp [changed_self]
        | some c' =>
          simpa [changed_self, hstatus, eq_comm (a := second.status)] using
            or_iff_not_imp_left (a := c' = c) (b := first.status = second.status)
      · simp [changed_of_ne (Ne.symm hc), hc, hstatus]

-- ---------------------------------------------------------------------------
-- The steps of two updates
-- ---------------------------------------------------------------------------

namespace InstanceRow

open SharedRow

section
variable {env : Env} {bodies : Bool → InstanceStatusUpdate} {σ : InstanceRow Bool} {a b : Bool}
  {r copy : Instance} {since : List InstanceWrite} {k : ℕ}

def updates (bodies : Bool → InstanceStatusUpdate) (b : Bool) : InstanceRequest :=
  .updateStatus (bodies b)

theorem exec_written (env : Env) (body : InstanceStatusUpdate) (k : ℕ) (copy r : Instance) :
    ∃ r', (body.write env k copy).exec r = some r' ∧
      r'.statusAndCpu = body.written copy.statusAndCpu r.statusAndCpu :=
  ⟨_, rfl, rfl⟩

theorem written_noop {body : InstanceStatusUpdate} (h : body.isNoop copy)
    (p : InstanceStatus × ℚ) : body.written copy.statusAndCpu p = p := by
  obtain ⟨hstatus, hcpu⟩ := h
  have hsame : body.nextCpuUsage.getD copy.cpuUsage = copy.cpuUsage := by
    cases hnext : body.nextCpuUsage with
    | none => rfl
    | some cpu => exact (hcpu cpu hnext).symm
  simp [InstanceStatusUpdate.written, Instance.statusAndCpu, hstatus, hsame, changed_self]

/-- A step that ends a request writes its outcome, and a copy the other holds
is out of date unless nothing was written. -/
theorem step_loaded (env : Env) (bodies : Bool → InstanceStatusUpdate) (k : ℕ)
    (hphase : σ.phase b = .loaded copy since) (hrow : σ.row = some r) :
    ∃ r', (σ.step (protocol env (updates bodies)) (b, k)).row = some r' ∧
      r'.statusAndCpu = (bodies b).written copy.statusAndCpu r.statusAndCpu ∧
      (σ.step (protocol env (updates bodies)) (b, k)).phase b = .done ∧
      ((r' = r ∧ (σ.step (protocol env (updates bodies)) (b, k)).phase (!b) = σ.phase (!b)) ∨
        ∃ w, (σ.step (protocol env (updates bodies)) (b, k)).phase (!b) =
          (σ.phase (!b)).push w) := by
  have hne : (!b) ≠ b := by cases b <;> simp
  by_cases hnoop : (bodies b).isNoop copy
  · refine ⟨r, ?_, (written_noop hnoop _).symm, ?_, .inl ⟨rfl, ?_⟩⟩ <;>
      simp [step, hphase, protocol, updates, InstanceRequest.decide, hnoop, goto, hrow]
  · obtain ⟨r', hexec, hwritten⟩ := exec_written env (bodies b) k copy r
    refine ⟨r', ?_, hwritten, ?_, .inr ⟨(bodies b).write env k copy, ?_⟩⟩ <;>
      simp [step, hphase, protocol, updates, InstanceRequest.decide, hnoop, goto, hrow,
        SharedRow.commit, hexec]

theorem step_waiting (hphase : σ.phase b = .waiting) (hrow : σ.row = some r) :
    σ.step (protocol env (updates bodies)) (b, k) = σ.goto b (.loaded r []) := by
  simp [step, hphase, hrow]

theorem step_done (hphase : σ.phase b = .done) :
    σ.step (protocol env (updates bodies)) (b, k) = σ := by
  simp [step, hphase]

theorem play_twice (env : Env) (bodies : Bool → InstanceStatusUpdate)
    (hphase : σ.phase b = .waiting) (hrow : σ.row = some r) (k : ℕ) :
    ∃ r', (play (step (protocol env (updates bodies))) σ [(b, k), (b, k)]).row = some r' ∧
      r'.statusAndCpu = (bodies b).outcome r.statusAndCpu ∧
      (σ.phase (!b) = .waiting →
        (play (step (protocol env (updates bodies))) σ [(b, k), (b, k)]).phase (!b) =
          .waiting) := by
  obtain ⟨r', hrow', hload, -, hother⟩ :=
    step_loaded (σ := σ.goto b (.loaded r [])) env bodies k (goto_phase_self _) hrow
  rw [written_self] at hload
  rw [goto_phase_of_ne (Bool.not_ne_self b)] at hother
  simp only [play_cons, play_nil, step_waiting hphase hrow]
  refine ⟨r', hrow', hload, fun hwait => ?_⟩
  rcases hother with ⟨-, hsame⟩ | ⟨w, hpush⟩
  · exact hsame.trans hwait
  · rw [hpush, hwait]
    rfl

-- ---------------------------------------------------------------------------
-- Both orders
-- ---------------------------------------------------------------------------

/-- The step writes from a copy that the other request's commit has outdated,
and the two mix. -/
def MixesWrites (bodies : Bool → InstanceStatusUpdate) (σ : InstanceRow Bool) (e : Bool × ℕ) :
    Prop :=
  match σ.phase e.1 with
  | .loaded copy since => since ≠ [] ∧ Mixes (bodies !e.1) (bodies e.1) copy.statusAndCpu
  | _ => False

/-- How far two updates of a row have come that began with `p` in its columns. -/
inductive Stage (bodies : Bool → InstanceStatusUpdate) (p : InstanceStatus × ℚ)
    (σ : InstanceRow Bool) : Prop
  | early (r : Instance) (hrow : σ.row = some r) (hr : r.statusAndCpu = p)
      (hphase : ∀ b, σ.phase b = .waiting ∨
        ∃ copy, σ.phase b = .loaded copy [] ∧ copy.statusAndCpu = p)
  | half (a : Bool) (r : Instance) (hdone : σ.phase a = .done) (hrow : σ.row = some r)
      (hr : r.statusAndCpu = (bodies a).outcome p)
      (hother : σ.phase (!a) = .waiting ∨ ∃ copy since, σ.phase (!a) = .loaded copy since ∧
        (since = [] → copy.statusAndCpu = r.statusAndCpu) ∧
        (since ≠ [] → copy.statusAndCpu = p))

theorem eq_not_of_phase {ph : CopyPhase Instance InstanceWrite} (ha : σ.phase a = .done)
    (hb : σ.phase b = ph) (hne : ph ≠ .done) : b = !a := by
  refine (Bool.eq_or_eq_not b a).resolve_left ?_
  rintro rfl
  exact hne (hb.symm.trans ha)

theorem Stage.waiting (h : Stage bodies p σ) (hphase : σ.phase b = .waiting) :
    Stage bodies p (σ.step (protocol env (updates bodies)) (b, k)) := by
  cases h with
  | early r hrow hr hother =>
    rw [step_waiting hphase hrow]
    refine .early r hrow hr fun c => ?_
    by_cases hc : c = b
    · subst hc
      exact .inr ⟨r, goto_phase_self _, hr⟩
    · rw [goto_phase_of_ne hc]
      exact hother c
  | half a r hdone hrow hr hother =>
    obtain rfl : b = !a := eq_not_of_phase hdone hphase (by simp)
    rw [step_waiting hphase hrow]
    exact .half a r (by rwa [goto_phase_of_ne (Bool.self_ne_not a)]) hrow hr
      (.inr ⟨r, [], goto_phase_self _, fun _ => rfl, fun h => absurd rfl h⟩)

theorem Stage.first (hrow : σ.row = some r) (hr : r.statusAndCpu = p)
    (hphase : ∀ b, σ.phase b = .waiting ∨
      ∃ copy, σ.phase b = .loaded copy [] ∧ copy.statusAndCpu = p)
    (hb : σ.phase b = .loaded copy []) :
    Stage bodies p (σ.step (protocol env (updates bodies)) (b, k)) := by
  have hcopy : copy.statusAndCpu = p := by
    rcases hphase b with hw | ⟨c, hc, hp⟩
    · simp [hb] at hw
    · simp only [hb, CopyPhase.loaded.injEq, and_true] at hc
      rwa [hc]
  obtain ⟨r', hrow', hload, hdone, hother⟩ := step_loaded env bodies k hb hrow
  rw [hcopy, hr, written_self] at hload
  refine .half b r' hdone hrow' hload ?_
  rcases hother with ⟨rfl, hsame⟩ | ⟨w, hpush⟩
  · rw [hsame]
    refine (hphase !b).imp id ?_
    rintro ⟨c, hc, hp⟩
    exact ⟨c, [], hc, fun _ => hp.trans hr.symm, fun h => absurd rfl h⟩
  · rw [hpush]
    rcases hphase !b with hw | ⟨c, hc, hp⟩
    · exact .inl (by rw [hw]; rfl)
    · exact .inr ⟨c, [w], by rw [hc]; rfl, fun h => by simp at h, fun _ => hp⟩

/-- The row is what one of the two orders leaves. -/
def LeftBySomeOrder (bodies : Bool → InstanceStatusUpdate) (p : InstanceStatus × ℚ)
    (row : Option Instance) : Prop :=
  ∃ first, row.map Instance.statusAndCpu =
    some ((bodies !first).outcome ((bodies first).outcome p))

theorem exists_bool_iff {F : Bool → Prop} (a : Bool) : (∃ b, F b) ↔ F (!a) ∨ F a := by
  cases a <;> simp [or_comm]

theorem second_serial_iff (hrow : σ.row = some r) (hr : r.statusAndCpu = (bodies a).outcome p)
    (hphase : σ.phase (!a) = .loaded copy since)
    (hfresh : since = [] → copy.statusAndCpu = r.statusAndCpu)
    (hstale : since ≠ [] → copy.statusAndCpu = p) :
    LeftBySomeOrder bodies p (σ.step (protocol env (updates bodies)) (!a, k)).row ↔
      ¬MixesWrites bodies σ (!a, k) := by
  obtain ⟨r', hrow', hload, -, -⟩ := step_loaded env bodies k hphase hrow
  rw [hr] at hload
  simp only [LeftBySomeOrder, hrow', Option.map_some, Option.some.injEq]
  rw [exists_bool_iff a, Bool.not_not, hload]
  by_cases hnil : since = []
  · have hmix : ¬MixesWrites bodies σ (!a, k) := by simp [MixesWrites, hphase, hnil]
    rw [hfresh hnil, hr, written_self]
    exact iff_of_true (.inr rfl) hmix
  · have hmix : MixesWrites bodies σ (!a, k) ↔ Mixes (bodies a) (bodies !a) p := by
      simp [MixesWrites, hphase, hnil, hstale hnil]
    rw [hstale hnil, hmix, or_comm]
    exact written_serial_iff (bodies a) (bodies !a) p

theorem second_done (ha : σ.phase a = .done) (hrow : σ.row = some r)
    (hphase : σ.phase (!a) = .loaded copy since) :
    ∀ b, (σ.step (protocol env (updates bodies)) (!a, k)).phase b = .done := by
  obtain ⟨r', -, -, hlast, hfirst⟩ := step_loaded env bodies k hphase hrow
  rw [Bool.not_not, ha] at hfirst
  have hdone : (σ.step (protocol env (updates bodies)) (!a, k)).phase a = .done := by
    rcases hfirst with ⟨-, hsame⟩ | ⟨w, hpush⟩
    · exact hsame
    · exact hpush
  intro b
  rcases Bool.eq_or_eq_not b a with rfl | rfl
  · exact hdone
  · exact hlast

theorem both_done (env : Env) (h : ∀ b, σ.phase b = .done) (schedule : List (Bool × ℕ)) :
    play (step (protocol env (updates bodies))) σ schedule = σ ∧
      Along (step (protocol env (updates bodies))) (fun σ e => ¬MixesWrites bodies σ e) σ
        schedule := by
  induction schedule with
  | nil => exact ⟨rfl, trivial⟩
  | cons e schedule ih =>
    rw [play_cons, along_cons, step_done (h e.1)]
    exact ⟨ih.1, by simp [MixesWrites, h e.1], ih.2⟩

theorem Stage.unfinished (h : Stage bodies p σ) : ∃ b, σ.phase b ≠ .done := by
  cases h with
  | early r hrow hr hphase =>
    refine ⟨false, fun hd => ?_⟩
    have hfalse := hphase false
    simp [hd] at hfalse
  | half a r _ hrow hr hother =>
    refine ⟨!a, fun hd => ?_⟩
    simp [hd] at hother

theorem Stage.serial_iff (h : Stage bodies p σ) (schedule : List (Bool × ℕ))
    (hdone : ∀ b, (play (step (protocol env (updates bodies))) σ schedule).phase b = .done) :
    LeftBySomeOrder bodies p (play (step (protocol env (updates bodies))) σ schedule).row ↔
      Along (step (protocol env (updates bodies))) (fun σ e => ¬MixesWrites bodies σ e) σ
        schedule := by
  induction schedule generalizing σ with
  | nil =>
    obtain ⟨b, hb⟩ := h.unfinished
    exact absurd (hdone b) hb
  | cons e schedule ih =>
    obtain ⟨b, k⟩ := e
    rw [play_cons, along_cons]
    rw [play_cons] at hdone
    cases hb : σ.phase b with
    | waiting =>
      rw [and_iff_right (by simp [MixesWrites, hb])]
      exact ih (h.waiting hb) hdone
    | done =>
      rw [step_done hb] at hdone ⊢
      rw [and_iff_right (by simp [MixesWrites, hb])]
      exact ih h hdone
    | loaded copy since =>
      cases h with
      | early r hrow hr hphase =>
        obtain rfl : since = [] := by
          rcases hphase b with hw | ⟨c, hc, -⟩
          · simp [hb] at hw
          · simp only [hb, CopyPhase.loaded.injEq] at hc
            exact hc.2
        rw [and_iff_right (by simp [MixesWrites, hb])]
        exact ih (Stage.first hrow hr hphase hb) hdone
      | half a r hd hrow hr hother =>
        obtain rfl : b = !a := eq_not_of_phase hd hb (by simp)
        obtain ⟨hfresh, hstale⟩ : (since = [] → copy.statusAndCpu = r.statusAndCpu) ∧
            (since ≠ [] → copy.statusAndCpu = p) := by
          rcases hother with hw | ⟨c, l, hc, hcond⟩
          · simp [hb] at hw
          · simp only [hb, CopyPhase.loaded.injEq] at hc
            obtain ⟨rfl, rfl⟩ := hc
            exact hcond
        obtain ⟨hplay, halong⟩ := both_done env (second_done hd hrow hb) schedule
        rw [hplay, and_iff_left halong]
        exact second_serial_iff hrow hr hb hfresh hstale

end

-- ---------------------------------------------------------------------------
-- Serialisability
-- ---------------------------------------------------------------------------

def inTurn (first : Bool) (k l : ℕ) : List (Bool × ℕ) :=
  [(first, k), (first, k), (!first, l), (!first, l)]

/-- The two columns end as they do when the requests run one after the other. -/
def Serialisable (env : Env) (bodies : Bool → InstanceStatusUpdate) (r : Instance)
    (schedule : List (Bool × ℕ)) : Prop :=
  ∃ first, ∀ k l,
    (play (step (protocol env (updates bodies))) (start (some r)) schedule).row.map
        Instance.statusAndCpu =
      (play (step (protocol env (updates bodies))) (start (some r)) (inTurn first k l)).row.map
        Instance.statusAndCpu

theorem play_inTurn (env : Env) (bodies : Bool → InstanceStatusUpdate) (r : Instance)
    (first : Bool) (k l : ℕ) :
    (play (step (protocol env (updates bodies))) (start (some r)) (inTurn first k l)).row.map
        Instance.statusAndCpu =
      some ((bodies !first).outcome ((bodies first).outcome r.statusAndCpu)) := by
  obtain ⟨r₁, hrow₁, hload₁, hwait⟩ :=
    play_twice (σ := start (some r)) (b := first) env bodies rfl rfl k
  obtain ⟨r₂, hrow₂, hload₂, -⟩ := play_twice env bodies (hwait rfl) hrow₁ l
  rw [inTurn, show [(first, k), (first, k), (!first, l), (!first, l)] =
    [(first, k), (first, k)] ++ [(!first, l), (!first, l)] from rfl, play_append, hrow₂,
    Option.map_some, hload₂, hload₁]

/-- Two updates of a stored instance, interleaved in any way, leave what one of
the two orders leaves, exactly if no write mixes with the one before it. -/
theorem updates_serialisable_iff (env : Env) (bodies : Bool → InstanceStatusUpdate) (r : Instance)
    (schedule : List (Bool × ℕ))
    (hdone : ∀ b, (play (step (protocol env (updates bodies))) (start (some r)) schedule).phase b =
      .done) :
    Serialisable env bodies r schedule ↔
      Along (step (protocol env (updates bodies))) (fun σ e => ¬MixesWrites bodies σ e)
        (start (some r)) schedule := by
  have hstage : Stage bodies r.statusAndCpu (start (some r)) :=
    .early r rfl rfl fun _ => .inl rfl
  rw [← hstage.serial_iff schedule hdone]
  simp only [Serialisable, LeftBySomeOrder, play_inTurn, forall_const]

instance (first second : InstanceStatusUpdate) (copy : InstanceStatus × ℚ) :
    Decidable (Mixes first second copy) := inferInstanceAs (Decidable (_ ∨ _))

instance (bodies : Bool → InstanceStatusUpdate) (σ : InstanceRow Bool) (e : Bool × ℕ) :
    Decidable (MixesWrites bodies σ e) := by
  unfold MixesWrites
  split <;> infer_instance

-- ---------------------------------------------------------------------------
-- A stop and a new reading
-- ---------------------------------------------------------------------------

def runningInstance : Instance :=
  ⟨1, "web-01", "ap-southeast-1", .small, .running, 50, 50, 1, 0, 0⟩

def bothLoadFirst : List (Bool × ℕ) := [(false, 0), (true, 0), (false, 1), (true, 3)]

def stopAndFail (b : Bool) : InstanceStatusUpdate :=
  statusOnly (if b then .error else .stopped)

theorem updates_serialisable_stopAndFail :
    Serialisable (.every 1) stopAndFail runningInstance bothLoadFirst :=
  (updates_serialisable_iff (.every 1) stopAndFail runningInstance bothLoadFirst
    (by decide +kernel)).mpr (by decide +kernel)

def stopAndMeasure : Bool → InstanceStatusUpdate
  | false => statusOnly .stopped
  | true => { status := .running, cpuUsage := some 70, cpuUsage_range := by simp; norm_num }

theorem updates_not_serialisable :
    (∀ b, (play (step (protocol (.every 1) (updates stopAndMeasure))) (start (some runningInstance))
      bothLoadFirst).phase b = .done) ∧
      ¬Serialisable (.every 1) stopAndMeasure runningInstance bothLoadFirst ∧
      (play (step (protocol (.every 1) (updates stopAndMeasure))) (start (some runningInstance))
        bothLoadFirst).row.map Instance.statusAndCpu = some (.stopped, 70) := by
  refine ⟨by decide +kernel, ?_, by decide +kernel⟩
  rintro ⟨first, h⟩
  replace h := h 0 0
  revert first
  decide +kernel

end InstanceRow

end CloudMonitor
