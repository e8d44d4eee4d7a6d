import Mathlib.Data.Fintype.Basic
import CloudMonitor.Concurrent.Scan

/-!
# Concurrent scans and deletions

A deletion loads the instance, loads the alerts it has by then, and deletes
those alerts and the instance by id; others see that from its commit on. No
foreign key is enforced, so an alert that is inserted in between stays. Alone,
the steps are the sequential `deleteInstance` (`DeletionSystem.alone`).
-/

namespace CloudMonitor

open Fallible

inductive DeletionPhase
  | waiting
  | loaded (inst : Instance)
  | cascading (inst : Instance) (alertIds : List ℤ)
  | deleted (inst : Instance) (alertIds : List ℤ)
  | done
  deriving DecidableEq

/-- The instance and the alerts a deletion has loaded to delete. -/
def DeletionPhase.cascade : DeletionPhase → Option (Instance × List ℤ)
  | .cascading inst alertIds | .deleted inst alertIds => some (inst, alertIds)
  | _ => none

structure DeletionSystem (ι κ : Type) where
  scans : ScanSystem ι
  deletion : κ → DeletionPhase

namespace DeletionSystem

section
variable {ι κ : Type}

abbrev db (σ : DeletionSystem ι κ) : Database := σ.scans.db

def start (db : Database) (tick : ℕ) : DeletionSystem ι κ where
  scans := ScanSystem.start db tick
  deletion _ := .waiting

/-- The rows of a committed deletion are gone; an uncommitted alert of another
session is not among them, whatever its id. -/
def remove (σ : DeletionSystem ι κ) (inst : Instance) (alertIds : List ℤ) : DeletionSystem ι κ :=
  { σ with scans := { σ.scans with db := { σ.db with
      instances := σ.db.instances.delete (·.id == inst.id)
      alerts := σ.db.alerts.delete
        (fun a => alertIds.contains a.id && (σ.scans.owner a.id).isNone) } } }

variable [DecidableEq ι] [DecidableEq κ]

def goto (σ : DeletionSystem ι κ) (d : κ) (phase : DeletionPhase) : DeletionSystem ι κ :=
  { σ with deletion := Function.update σ.deletion d phase }

def stepDeletion (targets : κ → ℤ) (σ : DeletionSystem ι κ) (d : κ) : DeletionSystem ι κ :=
  match σ.deletion d with
  | .waiting => σ.goto d (match σ.db.instances.find? (targets d) with
    | none => .done
    | some inst => if inst.status = .running then .done else .loaded inst)
  | .loaded inst => σ.goto d (.cascading inst
      ((σ.scans.committed.rows.filter (fun a => a.instanceId == inst.id)).map Alert.id))
  | .cascading inst alertIds => σ.goto d (.deleted inst alertIds)
  | .deleted inst alertIds => (σ.remove inst alertIds).goto d .done
  | .done => σ

def step (env : Env) (requests : ι → ScanRequest) (targets : κ → ℤ) (σ : DeletionSystem ι κ) :
    ι ⊕ κ → DeletionSystem ι κ
  | .inl i => { σ with scans := σ.scans.step env requests i }
  | .inr d => σ.stepDeletion targets d

/-- Every alert names a stored instance. -/
def References (alerts : Table Alert) (instances : Table Instance) : Prop :=
  ∀ a ∈ alerts, a.instanceId ∈ instances.ids

/-- The alerts the next statement inserts. -/
def nextInsert (requests : ι → ScanRequest) (σ : DeletionSystem ι κ) : ι ⊕ κ → List NewAlert
  | .inl i => σ.scans.nextInsert requests i
  | .inr _ => []

/-- The instances scan `i` has read and may yet insert an alert for. -/
def outstanding (requests : ι → ScanRequest) (σ : DeletionSystem ι κ) (i : ι) : List ℤ :=
  match σ.scans.scan i with
  | .probing _ batch => batch.map Instance.id
  | .recording _ batch existing =>
    (newAlerts (requests i).job existing batch).map NewAlert.instanceId
  | _ => []

/-- From its alert load to its commit no scan inserts an alert for the
instance deletion `d` deletes. -/
def Unalerted (env : Env) (requests : ι → ScanRequest) (targets : κ → ℤ) (d : κ) (inst : Instance) :
    DeletionSystem ι κ → List (ι ⊕ κ) → Prop :=
  While (step env requests targets) (fun τ => (τ.deletion d).cascade.isSome)
    (fun τ e => ∀ a ∈ nextInsert requests τ e, a.instanceId ≠ inst.id)

/-- When a deletion loads its alerts, no scan holds one for the instance
uncommitted, and none inserts one before the deletion commits. When it
commits, no scan has read the instance and not yet inserted. -/
def DeletesApart (env : Env) (requests : ι → ScanRequest) (targets : κ → ℤ)
    (σ : DeletionSystem ι κ) (e : ι ⊕ κ) (rest : List (ι ⊕ κ)) : Prop :=
  match e with
  | .inl _ => True
  | .inr d => match σ.deletion d with
    | .loaded inst =>
      (∀ a ∈ σ.db.alerts.rows, a.instanceId = inst.id → σ.scans.owner a.id = none) ∧
        Unalerted env requests targets d inst (σ.stepDeletion targets d) rest
    | .deleted inst _ => ∀ i, inst.id ∉ outstanding requests σ i
    | _ => True

end

-- ---------------------------------------------------------------------------
-- One step
-- ---------------------------------------------------------------------------

section
variable {ι κ : Type} {env : Env} {requests : ι → ScanRequest} {targets : κ → ℤ}
  {σ : DeletionSystem ι κ}

theorem References.addAlerts {tick : ℕ} {new : List NewAlert} {alerts : Table Alert}
    {instances : Table Instance} (h : References alerts instances)
    (hnew : ∀ a ∈ new, a.instanceId ∈ instances.ids) :
    References (addAlerts env tick new alerts) instances := by
  intro a ha
  rcases mem_addAlerts ha with ha | ⟨b, hb, k, -, -, hrow⟩
  · exact h a ha
  · rw [hrow]
    exact hnew b hb

theorem mem_remove_instances {inst : Instance} {alertIds : List ℤ} {id : ℤ}
    (h : id ∈ σ.db.instances.ids) (hne : id ≠ inst.id) :
    id ∈ (σ.remove inst alertIds).db.instances.ids := by
  obtain ⟨x, hx, rfl⟩ := Table.mem_ids.mp h
  exact Table.mem_ids.mpr ⟨x, Table.mem_delete.mpr ⟨hx, by simpa using hne⟩, rfl⟩

/-- Rows go with an instance all whose alerts were loaded and committed. -/
theorem References.remove (h : References σ.db.alerts σ.db.instances) {inst : Instance}
    {alertIds : List ℤ} (hloaded : ∀ a ∈ σ.db.alerts, a.instanceId = inst.id →
      a.id ∈ alertIds ∧ σ.scans.owner a.id = none) :
    References (σ.remove inst alertIds).db.alerts (σ.remove inst alertIds).db.instances := by
  intro a ha
  obtain ⟨ha, hkept⟩ := Table.mem_delete.mp ha
  refine mem_remove_instances (h a ha) fun hid => ?_
  obtain ⟨hmem, howner⟩ := hloaded a ha hid
  simp [hmem, howner] at hkept

variable [DecidableEq ι] [DecidableEq κ]

-- ---------------------------------------------------------------------------
-- A deletion that is alone
-- ---------------------------------------------------------------------------

omit [DecidableEq ι] in
theorem goto_goto (d : κ) (phase phase' : DeletionPhase) :
    (σ.goto d phase).goto d phase' = σ.goto d phase' := by
  simp [goto]

omit [DecidableEq ι] in
theorem goto_deletion (d : κ) (phase : DeletionPhase) : (σ.goto d phase).deletion d = phase := by
  simp [goto]

omit [DecidableEq ι] [DecidableEq κ] in
/-- Without other sessions the loaded alerts are those the cascade takes. -/
theorem remove_start (db : Database) (tick : ℕ) (inst : Instance) :
    ((start db tick : DeletionSystem ι κ).remove inst
      (((start db tick : DeletionSystem ι κ).scans.committed.rows.filter
        (fun a => a.instanceId == inst.id)).map Alert.id)).db = deleteCascade db inst.id := by
  have hcommitted : (start db tick : DeletionSystem ι κ).scans.committed = db.alerts := by
    refine Table.ext_mem fun a => ?_
    simp [ScanSystem.committed, start, ScanSystem.start]
  have halerts : db.alerts.delete (fun a =>
      ((db.alerts.rows.filter (fun a => a.instanceId == inst.id)).map Alert.id).contains a.id) =
        db.alerts.delete (·.instanceId == inst.id) :=
    Table.delete_loaded db.alerts (·.instanceId == inst.id)
  rw [hcommitted]
  simp only [remove, start, ScanSystem.start, deleteCascade, DeletionSystem.db, Option.isNone_none,
    Bool.and_true, halerts]

theorem play_done (env : Env) (requests : ι → ScanRequest) (targets : κ → ℤ) (d : κ) (n : ℕ) :
    play (step env requests targets) (σ.goto d .done) (List.replicate n (.inr d)) =
      σ.goto d .done := by
  induction n with
  | zero => rfl
  | succ n ih =>
    rw [List.replicate_succ, play_cons]
    simpa only [step, stepDeletion, goto_deletion] using ih

theorem alone (env : Env) (requests : ι → ScanRequest) (targets : κ → ℤ) (db : Database)
    (tick : ℕ) (d : κ) (hid : int64 (targets d)) :
    (play (step env requests targets) (start db tick) (List.replicate 4 (.inr d))).deletion d =
        .done ∧
      (play (step env requests targets) (start db tick) (List.replicate 4 (.inr d))).db =
        ((deleteInstance (targets d)).run
          { committed := db, view := db, tick := tick }).2.committed := by
  let σ : DeletionSystem ι κ := start db tick
  have hwaiting : σ.stepDeletion targets d = σ.goto d (match db.instances.find? (targets d) with
      | none => .done
      | some inst => if inst.status = .running then .done else .loaded inst) := rfl
  rw [List.replicate_succ, play_cons, show (start db tick).step env requests targets (.inr d) =
    σ.stepDeletion targets d from rfl, hwaiting]
  cases hfind : db.instances.find? (targets d) with
  | none =>
    have hdelete : (deleteInstance (targets d)).run
        { committed := db, view := db, tick := tick } = _ := deleteInstance_missing hfind hid
    simp only [play_done, hdelete]
    exact ⟨goto_deletion d _, rfl⟩
  | some inst =>
    obtain ⟨hinst, htarget⟩ := Table.find?_eq_some.mp hfind
    rw [Instance.row_id] at htarget
    have hdelete : (deleteInstance inst.id).run { committed := db, view := db, tick := tick } = _ :=
      deleteInstance_run hinst (by rwa [← htarget] at hid)
    rw [← htarget, hdelete]
    by_cases hrun : inst.status = .running
    · simp only [hrun, if_true, play_done]
      exact ⟨goto_deletion d _, rfl⟩
    · have hcascade : (σ.goto d (.loaded inst)).stepDeletion targets d =
          σ.goto d (.cascading inst
            ((σ.scans.committed.rows.filter (fun a => a.instanceId == inst.id)).map Alert.id)) := by
        simp only [stepDeletion, goto_deletion, goto_goto]
        rfl
      have hdeleted (ids : List ℤ) : (σ.goto d (.cascading inst ids)).stepDeletion targets d =
          σ.goto d (.deleted inst ids) := by
        simp only [stepDeletion, goto_deletion, goto_goto]
      have hcommit (ids : List ℤ) : (σ.goto d (.deleted inst ids)).stepDeletion targets d =
          (σ.remove inst ids).goto d .done := by
        simp only [stepDeletion, goto_deletion]
        exact goto_goto (σ := σ.remove inst ids) d _ _
      simp only [hrun, if_false, List.replicate_succ, List.replicate_zero, play_cons, play_nil,
        step, hcascade, hdeleted, hcommit]
      exact ⟨goto_deletion d _, remove_start db tick inst⟩

-- ---------------------------------------------------------------------------
-- References
-- ---------------------------------------------------------------------------

/-- The alerts name stored instances, and so do those scans have yet to
insert; a deletion has loaded all alerts of its instance. -/
structure Kept (env : Env) (requests : ι → ScanRequest) (targets : κ → ℤ)
    (σ : DeletionSystem ι κ) (events : List (ι ⊕ κ)) : Prop where
  references : References σ.db.alerts σ.db.instances
  stored : ∀ i, ∀ id ∈ outstanding requests σ i, id ∈ σ.db.instances.ids
  loaded : ∀ d inst alertIds, (σ.deletion d).cascade = some (inst, alertIds) →
    (∀ a ∈ σ.db.alerts, a.instanceId = inst.id → a.id ∈ alertIds ∧ σ.scans.owner a.id = none) ∧
      Unalerted env requests targets d inst σ events

variable {events : List (ι ⊕ κ)}

theorem kept_start (env : Env) (requests : ι → ScanRequest) (targets : κ → ℤ) (events : List (ι ⊕ κ))
    {db : Database} (tick : ℕ) (h : References db.alerts db.instances) :
    Kept env requests targets (start db tick) events where
  references := h
  stored i id hid := by simp [outstanding, start, ScanSystem.start] at hid
  loaded d inst alertIds hd := by simp [start, DeletionPhase.cascade] at hd

omit [DecidableEq ι] [DecidableEq κ] in
theorem nextInsert_outstanding {i : ι} {a : NewAlert}
    (ha : a ∈ σ.scans.nextInsert requests i) : a.instanceId ∈ outstanding requests σ i := by
  unfold ScanSystem.nextInsert at ha
  split at ha
  · next hphase =>
    simp only [outstanding, hphase]
    exact List.mem_map_of_mem ha
  · simp at ha

/-- What a scan has yet to insert for it had before, or reads now. -/
theorem outstanding_step {i j : ι} {id : ℤ}
    (h : id ∈ outstanding requests (σ.step env requests targets (.inl i)) j) :
    id ∈ outstanding requests σ j ∨ id ∈ σ.db.instances.ids := by
  simp only [outstanding, step] at h
  by_cases hj : j = i
  · subst hj
    cases hphase : σ.scans.scan j with
    | reading v =>
      simp only [ScanSystem.step, hphase, ScanSystem.goto_scan] at h
      split at h
      · next hsplit =>
        split at hsplit
        · cases hsplit
        · obtain ⟨rfl, rfl⟩ := ScanPhase.probing.inj hsplit
          obtain ⟨x, hx, rfl⟩ := List.mem_map.mp h
          exact .inr (Table.mem_ids.mpr ⟨x, (List.mem_filter.mp (List.mem_of_mem_take hx)).1, rfl⟩)
      · next hsplit => split at hsplit <;> cases hsplit
      · simp at h
    | probing v batch =>
      rw [ScanSystem.step_probing hphase, ScanSystem.goto_scan] at h
      obtain ⟨a, ha, rfl⟩ := List.mem_map.mp h
      obtain ⟨x, hx, rfl⟩ := List.mem_map.mp ha
      simp only [outstanding, hphase]
      exact .inl (List.mem_map_of_mem (List.mem_of_mem_filter hx))
    | recording v batch existing =>
      simp only [ScanSystem.step, hphase, ScanSystem.goto_scan] at h
      split at h
      · next hsplit => split at hsplit <;> cases hsplit
      · next hsplit => split at hsplit <;> cases hsplit
      · simp at h
    | finishing v => simp [ScanSystem.step, hphase, ScanSystem.goto_scan] at h
    | finished page => simp [ScanSystem.step, hphase] at h
  · rw [ScanSystem.step_scan_other hj] at h
    exact .inl h

theorem Kept.cascade {e : ι ⊕ κ} (h : Kept env requests targets σ (e :: events)) {d : κ}
    {inst : Instance} {alertIds : List ℤ} (hd : (σ.deletion d).cascade = some (inst, alertIds)) :
    (∀ a ∈ σ.db.alerts, a.instanceId = inst.id → a.id ∈ alertIds ∧ σ.scans.owner a.id = none) ∧
      (∀ a ∈ nextInsert requests σ e, a.instanceId ≠ inst.id) ∧
      Unalerted env requests targets d inst (σ.step env requests targets e) events := by
  obtain ⟨hmem, halone⟩ := h.loaded d inst alertIds hd
  have hsome : (σ.deletion d).cascade.isSome = true := by rw [hd]; rfl
  exact ⟨hmem, halone hsome⟩

theorem Kept.scan {i : ι} (h : Kept env requests targets σ (.inl i :: events)) :
    Kept env requests targets (σ.step env requests targets (.inl i)) events where
  references := by
    simp only [step, DeletionSystem.db]
    rw [ScanSystem.step_alerts, ScanSystem.step_instances]
    exact h.references.addAlerts fun a ha => h.stored i _ (nextInsert_outstanding ha)
  stored j id hid := by
    simp only [step, DeletionSystem.db]
    rw [ScanSystem.step_instances]
    exact (outstanding_step hid).elim (h.stored j id) fun hread => hread
  loaded d inst alertIds hd := by
    obtain ⟨hloaded, hother, hrest⟩ := h.cascade hd
    refine ⟨fun a ha hid => ?_, hrest⟩
    simp only [step, DeletionSystem.db] at ha
    rw [ScanSystem.step_alerts] at ha
    rcases mem_addAlerts ha with hold | ⟨b, hb, k, -, -, hrow⟩
    · obtain ⟨hmem, hnone⟩ := hloaded a hold hid
      exact ⟨hmem, ScanSystem.step_owner_none hold hnone i⟩
    · exact absurd ((congrArg Alert.instanceId hrow).symm.trans hid) (hother b hb)

theorem Kept.goto {d : κ} {phase : DeletionPhase}
    (h : Kept env requests targets σ (.inr d :: events))
    (hstep : σ.step env requests targets (.inr d) = σ.goto d phase)
    (hphase : ∀ inst alertIds, phase.cascade = some (inst, alertIds) →
      (∀ a ∈ σ.db.alerts, a.instanceId = inst.id → a.id ∈ alertIds ∧ σ.scans.owner a.id = none) ∧
        Unalerted env requests targets d inst (σ.step env requests targets (.inr d)) events) :
    Kept env requests targets (σ.step env requests targets (.inr d)) events := by
  have hloaded : ∀ d' inst alertIds,
      ((σ.step env requests targets (.inr d)).deletion d').cascade = some (inst, alertIds) →
      (∀ a ∈ σ.db.alerts, a.instanceId = inst.id → a.id ∈ alertIds ∧ σ.scans.owner a.id = none) ∧
        Unalerted env requests targets d' inst (σ.step env requests targets (.inr d)) events := by
    intro d' inst alertIds hd'
    by_cases hdd : d' = d
    · subst hdd
      exact hphase inst alertIds (by rwa [hstep, goto_deletion] at hd')
    · have hold : (σ.deletion d').cascade = some (inst, alertIds) := by
        simpa [hstep, DeletionSystem.goto, hdd] using hd'
      obtain ⟨hmem, -, halone⟩ := h.cascade hold
      exact ⟨hmem, halone⟩
  rw [hstep] at hloaded ⊢
  exact ⟨h.references, h.stored, hloaded⟩

/-- The commit of a deletion takes all alerts of its instance along. -/
theorem Kept.commit {d : κ} (h : Kept env requests targets σ (.inr d :: events)) {inst : Instance}
    {alertIds : List ℤ} (hphase : σ.deletion d = .deleted inst alertIds)
    (hapart : ∀ i, inst.id ∉ outstanding requests σ i) :
    Kept env requests targets (σ.step env requests targets (.inr d)) events where
  references := by
    simp only [step, stepDeletion, hphase]
    exact h.references.remove (h.loaded d inst alertIds (by rw [hphase]; rfl)).1
  stored i id hid := by
    simp only [step, stepDeletion, hphase] at hid ⊢
    have hid' : id ∈ outstanding requests σ i := hid
    exact mem_remove_instances (h.stored i id hid') fun heq => hapart i (heq ▸ hid')
  loaded d' inst' alertIds' hd' := by
    have hdd : d' ≠ d := by
      rintro rfl
      simp only [step, stepDeletion, hphase, goto_deletion] at hd'
      cases hd'
    have hold : (σ.deletion d').cascade = some (inst', alertIds') := by
      simpa [step, stepDeletion, hphase, DeletionSystem.goto, hdd, DeletionSystem.remove] using hd'
    obtain ⟨hmem, -, halone⟩ := h.cascade hold
    refine ⟨fun a ha => ?_, halone⟩
    simp only [step, stepDeletion, hphase] at ha ⊢
    exact hmem a (Table.mem_delete.mp ha).1

theorem Kept.step {e : ι ⊕ κ} (h : Kept env requests targets σ (e :: events))
    (hapart : DeletesApart env requests targets σ e events) :
    Kept env requests targets (σ.step env requests targets e) events := by
  cases e with
  | inl i => exact h.scan
  | inr d =>
    simp only [DeletesApart] at hapart
    cases hphase : σ.deletion d with
    | waiting =>
      refine h.goto (by simp only [DeletionSystem.step, stepDeletion, hphase]; rfl) fun _ _ hc => ?_
      split at hc
      · cases hc
      · split at hc <;> cases hc
    | loaded inst =>
      simp only [hphase] at hapart
      obtain ⟨hcommitted, halone⟩ := hapart
      refine h.goto (by simp only [DeletionSystem.step, stepDeletion, hphase]; rfl) ?_
      rintro _ _ ⟨⟩
      refine ⟨fun a ha hid => ⟨?_, hcommitted a ha hid⟩, halone⟩
      refine List.mem_map_of_mem (List.mem_filter.mpr ⟨?_, by simpa using hid⟩)
      exact Table.mem_delete.mpr ⟨ha, by simp [hcommitted a ha hid]⟩
    | cascading inst alertIds =>
      obtain ⟨hmem, -, halone⟩ := h.cascade (show (σ.deletion d).cascade = _ by rw [hphase]; rfl)
      refine h.goto (by simp only [DeletionSystem.step, stepDeletion, hphase]; rfl) ?_
      rintro _ _ ⟨⟩
      exact ⟨hmem, halone⟩
    | deleted inst alertIds =>
      simp only [hphase] at hapart
      exact h.commit hphase hapart
    | done =>
      have hstay : σ.step env requests targets (.inr d) = σ.goto d .done := by
        simp only [DeletionSystem.step, stepDeletion, hphase]
        rw [← hphase, DeletionSystem.goto, Function.update_eq_self]
      exact h.goto hstay fun _ _ hc => by cases hc

/-- As long as deletions and scans keep apart, every committed alert names a
stored instance, in every state reached. -/
theorem no_alert_outlives_instance (env : Env) (requests : ι → ScanRequest) (targets : κ → ℤ)
    (db : Database) (tick : ℕ) (schedule later : List (ι ⊕ κ))
    (h : References db.alerts db.instances)
    (hapart : Ahead (step env requests targets) (DeletesApart env requests targets) (start db tick)
      (schedule ++ later)) :
    References (play (step env requests targets) (start db tick) schedule).scans.committed
      (play (step env requests targets) (start db tick) schedule).db.instances := by
  have hkept := Ahead.reached (P := Kept env requests targets)
    (fun _ _ _ hσ he => hσ.step he) (kept_start env requests targets _ tick h) hapart
  exact fun a ha => hkept.references a (Table.mem_delete.mp ha).1

instance (alerts : Table Alert) (instances : Table Instance) :
    Decidable (References alerts instances) :=
  inferInstanceAs (Decidable (∀ a ∈ alerts.rows, a.instanceId ∈ instances.ids))

instance (requests : ι → ScanRequest) (d : κ) (inst : Instance) (σ : DeletionSystem ι κ)
    (events : List (ι ⊕ κ)) : Decidable (Unalerted env requests targets d inst σ events) :=
  While.decidable σ events

instance [Fintype ι] (e : ι ⊕ κ) (events : List (ι ⊕ κ)) :
    Decidable (DeletesApart env requests targets σ e events) := by
  unfold DeletesApart
  split
  · infer_instance
  · split <;> infer_instance

end

-- ---------------------------------------------------------------------------
-- A deletion while a scan is on
-- ---------------------------------------------------------------------------

def failedInstance : Instance :=
  ⟨1, "web-01", "ap-southeast-1", .small, .error, 0, 50, 1, 0, 0⟩

def oneFailed : Database :=
  { Database.empty with instances := ⟨[failedInstance], List.pairwise_singleton _ _⟩ }

def errorScan (_ : Unit) : ScanRequest := { job := errorsJob none, page := 1, size := 20 }

theorem no_alert_outlives_instance_inTurn :
    References (play (step (.every 1) errorScan (fun _ : Unit => 1)) (start oneFailed 0)
        [.inl (), .inl (), .inl (), .inl (), .inr (), .inr (), .inr (), .inr ()]).scans.committed
      (play (step (.every 1) errorScan (fun _ : Unit => 1)) (start oneFailed 0)
        [.inl (), .inl (), .inl (), .inl (), .inr (), .inr (), .inr (), .inr ()]).db.instances :=
  no_alert_outlives_instance (.every 1) errorScan (fun _ : Unit => 1) oneFailed 0 _ []
    (fun a ha => absurd ha (Table.not_mem_empty a)) (by decide +kernel)

def deletionDuringScan : List (Unit ⊕ Unit) :=
  [.inl (), .inr (), .inr (), .inr (), .inr (), .inl (), .inl (), .inl ()]

theorem alert_outlives_instance :
    References oneFailed.alerts oneFailed.instances ∧
      (play (step (.every 1) errorScan (fun _ : Unit => 1)) (start oneFailed 0)
        deletionDuringScan).scans.scan () =
          .finished { items := [failedInstance], total := 1, totalPages := 1 } ∧
      (play (step (.every 1) errorScan (fun _ : Unit => 1)) (start oneFailed 0)
        deletionDuringScan).deletion () = .done ∧
      ¬References
        (play (step (.every 1) errorScan (fun _ : Unit => 1)) (start oneFailed 0)
          deletionDuringScan).scans.committed
        (play (step (.every 1) errorScan (fun _ : Unit => 1)) (start oneFailed 0)
          deletionDuringScan).db.instances := by
  decide +kernel

end DeletionSystem

end CloudMonitor
