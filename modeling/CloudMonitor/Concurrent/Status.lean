import CloudMonitor.Lib.SharedRow
import CloudMonitor.Services.Instances

/-!
# Concurrent updates and deletions of an instance

`PATCH …/status` and `DELETE` load the committed row, check the copy, and then
write by id. The check is not made again on the row the write reaches, and an
`UPDATE` names only the columns the copy differs in, so what a write does
depends on what was committed since the load. Alone, the two steps of a request
are the sequential service call (`InstanceRow.alone`).
-/

namespace CloudMonitor

open Fallible

inductive InstanceRequest
  | updateStatus (body : InstanceStatusUpdate)
  | deleteInstance

def InstanceRequest.svc (env : Env) (instanceId : ℤ) : InstanceRequest → Svc Unit
  | .updateStatus body => do let _ ← CloudMonitor.updateStatus env instanceId body
  | .deleteInstance => CloudMonitor.deleteInstance instanceId

/-- A statement `WHERE id = …`; a column without a value is not in it. -/
inductive InstanceWrite
  | update (status : Option InstanceStatus) (cpuUsage : Option ℚ) (updatedAt : ℤ)
  | delete
  deriving DecidableEq

def changed [DecidableEq α] (loaded new : α) : Option α := if loaded = new then none else some new

@[simp] theorem changed_getD [DecidableEq α] (loaded new : α) :
    (changed loaded new).getD loaded = new := by
  unfold changed
  split
  · next h => exact h
  · rfl

def InstanceStatusUpdate.write (env : Env) (body : InstanceStatusUpdate) (k : ℕ)
    (loaded : Instance) : InstanceWrite :=
  let new := body.apply loaded (updateStamp env k loaded)
  .update (changed loaded.status new.status) (changed loaded.cpuUsage new.cpuUsage) new.updatedAt

def InstanceRequest.decide (env : Env) (k : ℕ) (loaded : Instance) :
    InstanceRequest → Option InstanceWrite
  | .updateStatus body => if body.isNoop loaded then none else some (body.write env k loaded)
  | .deleteInstance => if loaded.status = .running then none else some .delete

def InstanceWrite.exec : InstanceWrite → Instance → Option Instance
  | .update status cpuUsage updatedAt, row => some { row with
      status := status.getD row.status
      cpuUsage := cpuUsage.getD row.cpuUsage
      updatedAt := updatedAt }
  | .delete, _ => none

abbrev InstanceRow (ι : Type) : Type := SharedRow ι Instance InstanceWrite

namespace InstanceRow

open SharedRow

/-- What the outside answers a step is the number of its first clock reading. -/
def protocol (env : Env) (requests : ι → InstanceRequest) :
    Protocol ι ℕ Instance InstanceWrite where
  decide i k loaded := (requests i).decide env k loaded
  exec := InstanceWrite.exec

def statusColumn (env : Env) (requests : ι → InstanceRequest) :
    Column (protocol env requests) InstanceStatus where
  get := Instance.status
  set?
    | .update status _ _ => status
    | .delete => none
  get_exec {w r r'} h := by
    cases w with
    | update =>
      obtain rfl := Option.some.inj h
      rfl
    | delete => simp [protocol, InstanceWrite.exec] at h

-- ---------------------------------------------------------------------------
-- A request that is alone
-- ---------------------------------------------------------------------------

section
variable {ι : Type} [DecidableEq ι]

theorem write_exec (env : Env) (body : InstanceStatusUpdate) (k : ℕ) (loaded : Instance) :
    (body.write env k loaded).exec loaded =
      some (body.apply loaded (updateStamp env k loaded)) := by
  simp [InstanceStatusUpdate.write, InstanceWrite.exec, InstanceStatusUpdate.apply]

theorem find?_update {t : Table Instance} {r r' : Instance} (hr : r ∈ t) (hid : r'.id = r.id) :
    (t.update r').find? r.id = some r' :=
  Table.find?_eq_some.mpr
    ⟨Table.mem_update.mpr (.inl ⟨rfl, Table.mem_ids.mpr ⟨r, hr, hid.symm⟩⟩), hid⟩

theorem find?_deleteCascade (db : Database) (instanceId : ℤ) :
    (deleteCascade db instanceId).instances.find? instanceId = none := by
  rw [Table.find?_eq_none]
  intro hmem
  obtain ⟨r, hr, rfl⟩ := Table.mem_ids.mp hmem
  have hkept := (Table.mem_delete.mp hr).2
  simp at hkept

/-- The two steps of a request that is alone are the service call. -/
theorem alone (env : Env) (requests : ι → InstanceRequest) (i : ι) (db : Database) (j k : ℕ)
    {r : Instance} (hr : r ∈ db.instances) (hid : int64 r.id) :
    (((requests i).svc env r.id).run
        { committed := db, view := db, tick := k }).2.committed.instances.find? r.id =
      (play (step (protocol env requests)) (start (some r)) [(i, j), (i, k)]).row := by
  have hload := getInstance_run (s := { committed := db, view := db, tick := k }) hr hid
  have hstored : db.instances.find? r.id = some r := Table.find?_eq_some.mpr ⟨hr, rfl⟩
  rw [play_alone]
  simp only [protocol]
  cases requests i with
  | updateStatus body =>
    by_cases hnoop : body.isNoop r
    · simp [InstanceRequest.svc, InstanceRequest.decide, updateStatus, hload, hnoop, hstored]
    · simp only [InstanceRequest.decide, if_neg hnoop, write_exec, InstanceRequest.svc]
      rw [run_map_state, updateStatus_run env body hr hid, if_neg hnoop]
      exact find?_update hr rfl
  | deleteInstance =>
    simp only [InstanceRequest.svc, InstanceRequest.decide]
    rw [deleteInstance_run hr hid]
    by_cases hrun : r.status = .running
    · simp [hrun, hstored]
    · simp [hrun, InstanceWrite.exec, find?_deleteCascade]

-- ---------------------------------------------------------------------------
-- Deletions
-- ---------------------------------------------------------------------------

/-- The step commits a deletion while the committed status is `RUNNING`. -/
def DeletesRunning (env : Env) (requests : ι → InstanceRequest) (σ : InstanceRow ι) (e : ι × ℕ) :
    Prop :=
  match σ.phase e.1, σ.row with
  | .loaded copy _, some r =>
    (requests e.1).decide env e.2 copy = some .delete ∧ r.status = .running
  | _, _ => False

/-- The step deletes the instance, and the last status a `PATCH` has committed
since the deletion loaded its copy is `RUNNING`. -/
def DeletesRestarted (env : Env) (requests : ι → InstanceRequest) (σ : InstanceRow ι)
    (e : ι × ℕ) : Prop :=
  match σ.phase e.1, σ.row with
  | .loaded copy since, some _ => (requests e.1).decide env e.2 copy = some .delete ∧
    (statusColumn env requests).lastSet since = some .running
  | _, _ => False

instance (env : Env) (requests : ι → InstanceRequest) (σ : InstanceRow ι) (e : ι × ℕ) :
    Decidable (DeletesRunning env requests σ e) := by
  unfold DeletesRunning
  split <;> infer_instance

omit [DecidableEq ι] in
theorem decide_delete {env : Env} {request : InstanceRequest} {k : ℕ} {copy : Instance}
    (h : request.decide env k copy = some .delete) : copy.status ≠ .running := by
  cases request with
  | updateStatus body => simp [InstanceRequest.decide, InstanceStatusUpdate.write] at h
  | deleteInstance =>
    intro hrun
    simp [InstanceRequest.decide, hrun] at h

omit [DecidableEq ι] in
theorem deletesRunning_iff {env : Env} {requests : ι → InstanceRequest} {σ : InstanceRow ι}
    (h : Inv (protocol env requests) σ) (e : ι × ℕ) :
    DeletesRunning env requests σ e ↔ DeletesRestarted env requests σ e := by
  unfold DeletesRunning DeletesRestarted
  cases hphase : σ.phase e.1 with
  | waiting | done => exact Iff.rfl
  | loaded copy since =>
    cases hrow : σ.row with
    | none => exact Iff.rfl
    | some r =>
      refine and_congr_right fun hdelete => ?_
      have hcopy := decide_delete hdelete
      have hstatus := h.column (statusColumn env requests) hphase hrow
      change r.status = _ at hstatus
      rw [hstatus]
      cases (statusColumn env requests).lastSet since with
      | none => simpa [statusColumn] using hcopy
      | some status => simp

/-- No deletion commits while the committed status is `RUNNING`, exactly if no
deletion commits with a restart committed since its load. -/
theorem deletions_spare_running_iff (env : Env) (requests : ι → InstanceRequest)
    (row : Option Instance) (schedule : List (ι × ℕ)) :
    Along (step (protocol env requests)) (fun σ e => ¬DeletesRunning env requests σ e)
        (start row) schedule ↔
      Along (step (protocol env requests)) (fun σ e => ¬DeletesRestarted env requests σ e)
        (start row) schedule :=
  Along.congr (P := SharedRow.Inv (protocol env requests)) (fun _ e h => h.step e)
    (fun _ e h => not_congr (deletesRunning_iff h e)) (inv_start row) schedule

end

-- ---------------------------------------------------------------------------
-- A restart between the check and the deletion
-- ---------------------------------------------------------------------------

def stoppedInstance : Instance :=
  ⟨1, "web-01", "ap-southeast-1", .small, .stopped, 0, 50, 1, 0, 0⟩

def statusOnly (status : InstanceStatus) : InstanceStatusUpdate where
  status := status
  cpuUsage_range := by simp

def restartOrDelete : Bool → InstanceRequest
  | false => .updateStatus (statusOnly .running)
  | true => .deleteInstance

theorem deletion_takes_running :
    ¬Along (step (protocol (.every 1) restartOrDelete))
      (fun σ e => ¬DeletesRunning (.every 1) restartOrDelete σ e)
      (start (some stoppedInstance)) [(true, 0), (false, 0), (false, 1), (true, 3)] ∧
    (play (step (protocol (.every 1) restartOrDelete)) (start (some stoppedInstance))
      [(true, 0), (false, 0), (false, 1)]).row.map Instance.status = some .running ∧
    (play (step (protocol (.every 1) restartOrDelete)) (start (some stoppedInstance))
      [(true, 0), (false, 0), (false, 1), (true, 3)]).row = none := by
  decide +kernel

end InstanceRow

end CloudMonitor
