import CloudMonitor.History

/-!
# Status updates

A request that asks for what the row already shows changes nothing, so a
repeated one does not move `updatedAt`. A reading of an instance that is not
`RUNNING` is zero or was asked for.
-/

namespace CloudMonitor

open Fallible

-- ---------------------------------------------------------------------------
-- One update, and the same again
-- ---------------------------------------------------------------------------

/-- What an update makes of the row `i` and leaves of the rest. -/
structure StatusUpdated (env : Env) (data : InstanceStatusUpdate) (i j : Instance)
    (s s' : Session) : Prop where
  status : j.status = data.status
  cpuUsage : j.cpuUsage = data.cpuUsage.getD (if data.status = .running then i.cpuUsage else 0)
  stamped : (j.status, j.cpuUsage) ≠ (i.status, i.cpuUsage) →
    j.updatedAt = updateStamp env s.tick i
  kept : (j.status, j.cpuUsage) = (i.status, i.cpuUsage) → j.updatedAt = i.updatedAt
  columns : j =
    { i with status := j.status, cpuUsage := j.cpuUsage, updatedAt := j.updatedAt }
  rows : ∀ r, r ∈ s'.view.instances ↔ r = j ∨ (r ∈ s.view.instances ∧ r.id ≠ i.id)
  others : s'.view = { s.view with instances := s'.view.instances }
  committed : s'.committed =
    if (j.status, j.cpuUsage) = (i.status, i.cpuUsage) then s.committed else s'.view

theorem InstanceStatusUpdate.apply_cpuUsage (data : InstanceStatusUpdate) (i : Instance) (t : ℤ) :
    (data.apply i t).cpuUsage =
      data.cpuUsage.getD (if data.status = .running then i.cpuUsage else 0) := by
  simp only [InstanceStatusUpdate.apply, InstanceStatusUpdate.nextCpuUsage]
  cases data.cpuUsage with
  | some cpu => simp
  | none => by_cases h : data.status = .running <;> simp [h]

theorem InstanceStatusUpdate.isNoop_iff {data : InstanceStatusUpdate} {i : Instance} (t : ℤ) :
    data.isNoop i ↔
      ((data.apply i t).status, (data.apply i t).cpuUsage) = (i.status, i.cpuUsage) := by
  constructor
  · rintro ⟨hstatus, hcpu⟩
    refine Prod.ext hstatus.symm ?_
    cases h : data.nextCpuUsage with
    | none => simp [InstanceStatusUpdate.apply, h]
    | some cpu => simp [InstanceStatusUpdate.apply, h, hcpu cpu h]
  · intro h
    by_contra hchange
    exact InstanceStatusUpdate.apply_ne (t := t) hchange ⟨(congrArg Prod.fst h).symm,
      (congrArg Prod.snd h).symm⟩

theorem InstanceStatusUpdate.apply_isNoop (data : InstanceStatusUpdate) (i : Instance) (t : ℤ) :
    data.isNoop (data.apply i t) := by
  refine ⟨rfl, fun cpu hcpu => ?_⟩
  have hnext : data.nextCpuUsage = some cpu := hcpu
  simp [InstanceStatusUpdate.apply, hnext]

theorem mem_update_apply {data : InstanceStatusUpdate} {i r : Instance} {t : Table Instance}
    (hi : i ∈ t) (stamp : ℤ) :
    r ∈ t.update (data.apply i stamp) ↔ r = data.apply i stamp ∨ (r ∈ t ∧ r.id ≠ i.id) := by
  have hid : Row.id (data.apply i stamp) ∈ t.ids := Table.mem_ids.mpr ⟨i, hi, rfl⟩
  rw [Table.mem_update, and_iff_left hid]
  rfl

theorem updateStatus_updated (env : Env) (data : InstanceStatusUpdate) {s : Session} {i : Instance}
    (hi : i ∈ s.view.instances) (hid : int64 i.id) :
    ∃ j s', (updateStatus env i.id data).run s = (.ok j, s') ∧
      StatusUpdated env data i j s s' := by
  rw [updateStatus_run env data hi hid]
  split
  · next hnoop =>
    have hsame := (InstanceStatusUpdate.isNoop_iff i.updatedAt).mp hnoop
    refine ⟨i, s, rfl, ?_⟩
    constructor
    case status => exact hnoop.1
    case cpuUsage =>
      rw [← InstanceStatusUpdate.apply_cpuUsage data i i.updatedAt]
      exact (congrArg Prod.snd hsame).symm
    case stamped => exact fun h => absurd rfl h
    case kept => exact fun _ => rfl
    case columns => rfl
    case rows =>
      intro r
      constructor
      · intro hr
        by_cases h : r.id = i.id
        · exact .inl (Table.unique hr hi h)
        · exact .inr ⟨hr, h⟩
      · rintro (rfl | ⟨hr, -⟩)
        · exact hi
        · exact hr
    case others => rfl
    case committed => rw [if_pos rfl]
  · next hchange =>
    have hdiffers := mt (InstanceStatusUpdate.isNoop_iff (updateStamp env s.tick i)).mpr hchange
    refine ⟨_, _, rfl, ?_⟩
    constructor
    case status => rfl
    case cpuUsage => exact InstanceStatusUpdate.apply_cpuUsage data i _
    case stamped => exact fun _ => rfl
    case kept => exact fun h => absurd h hdiffers
    case columns => rfl
    case rows => exact fun r => mem_update_apply hi _
    case others => rfl
    case committed => rw [if_neg hdiffers]

theorem updateStatus_refused (env : Env) (data : InstanceStatusUpdate) {s : Session}
    {instanceId : ℤ} (h : int64 instanceId → instanceId ∉ s.view.instances.ids) :
    (updateStatus env instanceId data).run s =
      (.error (if int64 instanceId then .notFound "Instance" instanceId else .internal), s) := by
  simp only [updateStatus, run_bind, getInstance_refused h]

/-- Again at a later reading of the clock: the same reply and the same store. -/
theorem updateStatus_again (env : Env) (instanceId : ℤ) (data : InstanceStatusUpdate) (s : Session)
    (k : ℕ) :
    (updateStatus env instanceId data).run
        { ((updateStatus env instanceId data).run s).2 with tick := k } =
      (((updateStatus env instanceId data).run s).1,
        { ((updateStatus env instanceId data).run s).2 with tick := k }) := by
  by_cases hfound : int64 instanceId ∧ instanceId ∈ s.view.instances.ids
  · obtain ⟨hid, hmem⟩ := hfound
    obtain ⟨i, hi, hrow⟩ := Table.mem_ids.mp hmem
    obtain rfl : i.id = instanceId := hrow
    have hfirst := updateStatus_run env data hi hid
    by_cases hnoop : data.isNoop i
    · rw [if_pos hnoop] at hfirst
      have hagain := updateStatus_run env data (s := { s with tick := k }) hi hid
      rw [if_pos hnoop] at hagain
      rw [hfirst, hagain]
    · rw [if_neg hnoop] at hfirst
      -- the row now is as requested
      have hstored : data.apply i (updateStamp env s.tick i) ∈
          s.view.instances.update (data.apply i (updateStamp env s.tick i)) :=
        (mem_update_apply hi _).mpr (.inl rfl)
      have hagain := updateStatus_run env data
        (s := { ((updateStatus env i.id data).run s).2 with tick := k })
        (r := data.apply i (updateStamp env s.tick i)) (by rw [hfirst]; exact hstored) hid
      rw [if_pos (data.apply_isNoop i _)] at hagain
      rw [hfirst] at hagain ⊢
      exact hagain
  · have hmissing : int64 instanceId → instanceId ∉ s.view.instances.ids :=
      fun hid hmem => hfound ⟨hid, hmem⟩
    rw [updateStatus_refused env data hmissing]
    exact updateStatus_refused env data hmissing

-- ---------------------------------------------------------------------------
-- Where a reading comes from
-- ---------------------------------------------------------------------------

/-- After these calls, the latest first. -/
def worldAfter (env : Env) (start : World) : List ServiceCall → World
  | [] => start
  | c :: earlier => call env c (worldAfter env start earlier)

/-- Among the calls since `i` exists, one asked for a status that is not
`RUNNING` together with the reading `i` shows. -/
inductive Supplied (env : Env) (start : World) (i : Instance) : List ServiceCall → Prop
  | created (data : InstanceCreate) (earlier : List ServiceCall)
      (new : i.id ∉ (worldAfter env start earlier).db.instances.ids)
      (status : data.status ≠ .running) (cpuUsage : data.cpuUsage = i.cpuUsage) :
      Supplied env start i (.createInstance data :: earlier)
  | updated (data : InstanceStatusUpdate) (earlier : List ServiceCall)
      (status : data.status ≠ .running) (cpuUsage : data.cpuUsage = some i.cpuUsage) :
      Supplied env start i (.updateStatus i.id data :: earlier)
  | kept (c : ServiceCall) (earlier : List ServiceCall)
      (present : i.id ∈ (worldAfter env start earlier).db.instances.ids)
      (supplied : Supplied env start i earlier) : Supplied env start i (c :: earlier)

def KeepsInstances (w : World) (x : Svc α) : Prop :=
  ((x.run w.session).2).committed.instances = w.db.instances

theorem createClient_keepsInstances (env : Env) (data : ClientCreate) (w : World) :
    KeepsInstances w (createClient env data) := by
  simp only [KeepsInstances, createClient, run_bind, dbGet_run]
  by_cases hid : int64 data.managerId
  · rw [if_pos hid]
    cases w.session.view.members.find? data.managerId with
    | none => rfl
    | some m => by_cases hrole : m.role = .clientManager <;> simp [hrole] <;> rfl
  · rw [if_neg hid]
    rfl

theorem resolveAlert_keepsInstances (env : Env) (alertId : ℤ) (w : World) :
    KeepsInstances w (resolveAlert env alertId) := by
  simp only [KeepsInstances, resolveAlert, run_bind, dbGet_run]
  by_cases hid : int64 alertId
  · rw [if_pos hid]
    cases w.session.view.alerts.find? alertId with
    | none => rfl
    | some a => cases h : a.isResolved <;> simp [h] <;> rfl
  · rw [if_neg hid]
    rfl

theorem scanned_instances (env : Env) (job : ScanJob) (s : Session)
    (h : s.committed.instances = s.view.instances) :
    (s.scanned env job).committed.instances = s.committed.instances := by
  unfold Session.scanned
  split
  · rfl
  · exact h.symm

theorem scan_keepsInstances (env : Env) (job : ScanJob) (page size : ℕ) (w : World) :
    KeepsInstances w (scan env job page size) := by
  rw [KeepsInstances, scan_run]
  exact scanned_instances env job w.session rfl

theorem checkLongStopped_keepsInstances (env : Env) (clientIds : Option Select) (page size : ℕ)
    (w : World) : KeepsInstances w (checkLongStopped env clientIds page size) := by
  rw [KeepsInstances, checkLongStopped_run]
  exact scanned_instances env _ { w.session with tick := w.tick + 1 } rfl

theorem mem_createInstance (env : Env) (data : InstanceCreate) (w : World) {i : Instance}
    (hi : i ∈ ((createInstance env data).run w.session).2.committed.instances) :
    i ∈ w.db.instances ∨
      (i.id ∉ w.db.instances.ids ∧ i.status = data.status ∧ i.cpuUsage = data.cpuUsage) := by
  simp only [createInstance, run_bind, dbGet_run] at hi
  by_cases hid : int64 data.clientId
  · rw [if_pos hid] at hi
    cases hfind : w.session.view.clients.find? data.clientId with
    | none =>
      simp only [hfind, run_ite] at hi
      exact .inl hi
    | some c =>
      simp only [hfind, run_ite] at hi
      rcases Table.mem_insertNew.mp hi with rfl | hi
      · exact .inr ⟨env.newId_fresh _ _, rfl, rfl⟩
      · exact .inl hi
  · rw [if_neg hid] at hi
    exact .inl hi

theorem mem_updateStatus (env : Env) (instanceId : ℤ) (data : InstanceStatusUpdate) (w : World)
    {i : Instance} (hi : i ∈ ((updateStatus env instanceId data).run w.session).2.committed.instances) :
    i ∈ w.db.instances ∨ (i.id = instanceId ∧ ∃ j t, i = data.apply j t) := by
  by_cases hfound : int64 instanceId ∧ instanceId ∈ w.db.instances.ids
  · obtain ⟨hid, hmem⟩ := hfound
    obtain ⟨j, hj, hrow⟩ := Table.mem_ids.mp hmem
    obtain rfl : j.id = instanceId := hrow
    rw [updateStatus_run env data (s := w.session) hj hid] at hi
    by_cases hnoop : data.isNoop j
    · rw [if_pos hnoop] at hi
      exact .inl hi
    · rw [if_neg hnoop] at hi
      rcases (mem_update_apply hj _).mp hi with rfl | ⟨hi, -⟩
      · exact .inr ⟨rfl, j, _, rfl⟩
      · exact .inl hi
  · have hmissing : int64 instanceId → instanceId ∉ w.session.view.instances.ids :=
      fun hid hmem => hfound ⟨hid, hmem⟩
    rw [updateStatus_refused env data hmissing] at hi
    exact .inl hi

theorem mem_deleteInstance (instanceId : ℤ) (w : World) {i : Instance}
    (hi : i ∈ ((deleteInstance instanceId).run w.session).2.committed.instances) :
    i ∈ w.db.instances := by
  by_cases hfound : int64 instanceId ∧ instanceId ∈ w.db.instances.ids
  · obtain ⟨hid, hmem⟩ := hfound
    obtain ⟨j, hj, hrow⟩ := Table.mem_ids.mp hmem
    obtain rfl : j.id = instanceId := hrow
    rw [deleteInstance_run (s := w.session) hj hid] at hi
    split at hi
    · exact hi
    · exact (Table.mem_delete.mp hi).1
  · have hmissing : int64 instanceId → instanceId ∉ w.session.view.instances.ids :=
      fun hid hmem => hfound ⟨hid, hmem⟩
    simp only [deleteInstance, run_bind, getInstance_refused hmissing] at hi
    exact hi

/-- A call leaves the instances there were, and at most one that it created or
updated. -/
theorem mem_call {env : Env} {c : ServiceCall} {w : World} {i : Instance}
    (hi : i ∈ (call env c w).db.instances) :
    i ∈ w.db.instances ∨
      (∃ data, c = .createInstance data ∧ i.id ∉ w.db.instances.ids ∧ i.status = data.status ∧
        i.cpuUsage = data.cpuUsage) ∨
      ∃ data, c = .updateStatus i.id data ∧ ∃ j t, i = data.apply j t := by
  simp only [call, ServiceCall.svc, Session.world] at hi
  cases c with
  | createClient data =>
    rw [run_map_state, createClient_keepsInstances env data w] at hi
    exact .inl hi
  | createInstance data =>
    rw [run_map_state] at hi
    exact (mem_createInstance env data w hi).imp_right fun h => .inl ⟨data, rfl, h⟩
  | updateStatus instanceId data =>
    rw [run_map_state] at hi
    refine (mem_updateStatus env instanceId data w hi).imp_right fun h => .inr ?_
    obtain ⟨rfl, h⟩ := h
    exact ⟨data, rfl, h⟩
  | deleteInstance instanceId => exact .inl (mem_deleteInstance instanceId w hi)
  | checkWarnings caller page size =>
    rw [run_map_state, checkWarnings, scan_keepsInstances] at hi
    exact .inl hi
  | checkErrors caller page size =>
    rw [run_map_state, checkErrors, scan_keepsInstances] at hi
    exact .inl hi
  | checkLongStopped caller page size =>
    rw [run_map_state, checkLongStopped_keepsInstances] at hi
    exact .inl hi
  | resolveAlert alertId =>
    rw [run_map_state, resolveAlert_keepsInstances env alertId w] at hi
    exact .inl hi

theorem worldAfter_supplied (env : Env) (start : World)
    (hstart : ∀ i ∈ start.db.instances, i.status ≠ .running → i.cpuUsage = 0)
    (calls : List ServiceCall) {i : Instance} (hi : i ∈ (worldAfter env start calls).db.instances)
    (hstatus : i.status ≠ .running) : i.cpuUsage = 0 ∨ Supplied env start i calls := by
  induction calls with
  | nil => exact .inl (hstart i hi hstatus)
  | cons c earlier ih =>
    rcases mem_call hi with hold | ⟨data, rfl, hnew, hs, hcpu⟩ | ⟨data, rfl, j, t, happly⟩
    · exact (ih hold).imp_right (.kept c earlier (Table.mem_ids.mpr ⟨i, hold, rfl⟩))
    · exact .inr (.created data earlier hnew (hs ▸ hstatus) hcpu.symm)
    · have hs : i.status = data.status := by rw [happly]; rfl
      have hne : data.status ≠ .running := hs ▸ hstatus
      have hcpu : i.cpuUsage = data.cpuUsage.getD 0 := by
        rw [happly, InstanceStatusUpdate.apply_cpuUsage, if_neg hne]
      cases h : data.cpuUsage with
      | none => exact .inl (by rw [hcpu, h]; rfl)
      | some cpu =>
        refine .inr (.updated data earlier hne ?_)
        rw [hcpu, h]
        rfl

/-- Updates repeated at any later time change nothing; one update does what it
says to its row and nothing else; and from a start where only running
instances show a reading, every other reading was asked for. -/
theorem status_updates (env : Env) :
    (∀ instanceId data s k, (updateStatus env instanceId data).run
        { ((updateStatus env instanceId data).run s).2 with tick := k } =
      (((updateStatus env instanceId data).run s).1,
        { ((updateStatus env instanceId data).run s).2 with tick := k })) ∧
    (∀ data s i, i ∈ s.view.instances →
      (¬int64 i.id ∧ (updateStatus env i.id data).run s = (.error .internal, s)) ∨
        ∃ j s', (updateStatus env i.id data).run s = (.ok j, s') ∧
          StatusUpdated env data i j s s') ∧
    (∀ start, (∀ i ∈ start.db.instances, i.status ≠ .running → i.cpuUsage = 0) →
      ∀ calls, ∀ i ∈ (worldAfter env start calls).db.instances, i.status ≠ .running →
        i.cpuUsage = 0 ∨ Supplied env start i calls) := by
  refine ⟨updateStatus_again env, fun data s i hi => ?_, ?_⟩
  · by_cases hid : int64 i.id
    · exact .inr (updateStatus_updated env data hi hid)
    · have hrefused := updateStatus_refused env data (s := s) fun h => absurd h hid
      rw [if_neg hid] at hrefused
      exact .inl ⟨hid, hrefused⟩
  · exact fun start hstart calls i => worldAfter_supplied env start hstart calls

/-- An instance is registered and then reported to fail at a reading of 7. -/
def failingCalls : List ServiceCall :=
  [.updateStatus 1 {
      status := .error, cpuUsage := some 7, cpuUsage_range := by decide +kernel },
    .createInstance {
      instanceName := "edge-01", region := "ap-northeast-2", instanceType := .small, clientId := 1
      cpuUsage := 30, instanceName_length := by decide, region_length := by decide
      cpuUsage_range := by decide +kernel }]

def edgeInstance : Instance :=
  ⟨1, "edge-01", "ap-northeast-2", .small, .error, 7, 50, 1, 0, 172800000000⟩

theorem status_updates_failing :
    (∃ j s', (updateStatus (.every 1) edgeInstance.id
          { status := .running, cpuUsage_range := by simp }).run
        (worldAfter (.every 86400000000) oneClient failingCalls).session = (.ok j, s') ∧
      StatusUpdated (.every 1) { status := .running, cpuUsage_range := by simp } edgeInstance j
        (worldAfter (.every 86400000000) oneClient failingCalls).session s') ∧
    (edgeInstance.cpuUsage = 0 ∨
      Supplied (.every 86400000000) oneClient edgeInstance failingCalls) := by
  have hedge : edgeInstance ∈
      (worldAfter (.every 86400000000) oneClient failingCalls).db.instances := by
    decide +kernel
  refine ⟨((status_updates (.every 1)).2.1 _ _ edgeInstance hedge).resolve_left
    fun h => h.1 (by decide), ?_⟩
  exact (status_updates (.every 86400000000)).2.2 oneClient (by simp [oneClient, Database.empty])
    failingCalls edgeInstance hedge (by decide)

end CloudMonitor
