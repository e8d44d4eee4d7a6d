import CloudMonitor.Deps
import CloudMonitor.Pagination

/-!
# Instances

Registration, listing, status updates and deletion.
-/

namespace CloudMonitor

open Fallible

structure InstanceCreate where
  instanceName : String
  region : String
  instanceType : InstanceType
  status : InstanceStatus := .running
  cpuUsage : ℚ := 0
  clientId : ℤ
  instanceName_length : 1 ≤ instanceName.length ∧ instanceName.length ≤ 100
  region_length : 1 ≤ region.length ∧ region.length ≤ 50
  cpuUsage_range : 0 ≤ cpuUsage ∧ cpuUsage ≤ 100

structure InstanceStatusUpdate where
  status : InstanceStatus
  cpuUsage : Option ℚ := none
  cpuUsage_range : ∀ cpu ∈ cpuUsage, 0 ≤ cpu ∧ cpu ≤ 100

def createInstance (env : Env) (data : InstanceCreate) : Svc Instance := do
  let client ← dbGet (·.clients) data.clientId
  if client.isNone then
    raise (.notFound "Client" data.clientId)
  else
    let launchedAt ← utcnow env
    let inst ← insertRow env (·.instances) (fun db t => { db with instances := t })
      (fun id updatedAt =>
        { id := id
          instanceName := data.instanceName
          region := data.region
          instanceType := data.instanceType
          status := data.status
          cpuUsage := data.cpuUsage
          monthlyCost := env.settings.unitPrices data.instanceType
          clientId := data.clientId
          launchedAt := launchedAt
          updatedAt := updatedAt })
    commit
    return inst

-- ---------------------------------------------------------------------------
-- Listing
-- ---------------------------------------------------------------------------

def sortableFields : List String :=
  ["id", "instanceName", "region", "instanceType", "status", "cpuUsage", "monthlyCost", "clientId",
    "launchedAt", "updatedAt"]

/-- `<` of a column. The enum columns hold their names, so they compare as
text. -/
def columnLt (field : String) (a b : Instance) : Bool :=
  match field with
  | "instanceName" => a.instanceName < b.instanceName
  | "region" => a.region < b.region
  | "instanceType" => a.instanceType.value < b.instanceType.value
  | "status" => a.status.value < b.status.value
  | "cpuUsage" => a.cpuUsage < b.cpuUsage
  | "monthlyCost" => a.monthlyCost < b.monthlyCost
  | "clientId" => a.clientId < b.clientId
  | "launchedAt" => a.launchedAt < b.launchedAt
  | "updatedAt" => a.updatedAt < b.updatedAt
  | _ => a.id < b.id

/-- `ORDER BY field [DESC], id`. -/
def orderLe (field : String) (descending : Bool) (a b : Instance) : Prop :=
  let lt := if descending then fun x y => columnLt field y x else columnLt field
  lt a b = true ∨ (lt b a = false ∧ a.id ≤ b.id)

instance (field : String) (descending : Bool) : DecidableRel (orderLe field descending) :=
  fun _ _ => inferInstanceAs (Decidable (_ ∨ _))

/-- `sort.lstrip("-")`, and the column `id` for anything that is no column. -/
def sortField (sort : String) : String :=
  let field := String.ofList (sort.toList.dropWhile (· == '-'))
  if field ∈ sortableFields then field else "id"

structure InstanceFilter where
  status : Option InstanceStatus := none
  clientId : Option ℤ := none
  region : Option String := none
  instanceType : Option InstanceType := none

def InstanceFilter.matches (f : InstanceFilter) (i : Instance) : Bool :=
  f.status.all (i.status == ·) && f.clientId.all (i.clientId == ·) &&
    f.region.all (i.region == ·) && f.instanceType.all (i.instanceType == ·)

def instancesQuery (clientIds : Option Select) (f : InstanceFilter) (sort : String)
    (db : Database) :
    List Instance :=
  (db.instances.rows.filter (fun i => inScope clientIds db i.clientId && f.matches i)).insertionSort
    (orderLe (sortField sort) (sort.toList.head? == some '-'))

def listInstances (clientIds : Option Select) (page size : ℕ) (f : InstanceFilter) (sort : String) :
    Svc (Page Instance) := do
  match f.clientId with
  | some clientId => bindParam clientId
  | none => pure ()
  paginate (instancesQuery clientIds f sort) page size

theorem listInstances_triple (clientIds : Option Select) (page size : ℕ) (f : InstanceFilter)
    (sort : String) (s : Session) :
    Triple (listInstances clientIds page size f sort) s
      (fun p s' => s' = s ∧ p = pageOf (instancesQuery clientIds f sort s.view) page size)
      (fun _ s' => s' = s) := by
  have hquery := paginate_triple (instancesQuery clientIds f sort) page size s
  unfold listInstances
  cases f.clientId with
  | none => exact hquery
  | some c =>
    refine Triple.bind (bindParam_triple c s) ?_
    rintro _ _ rfl
    exact hquery

-- ---------------------------------------------------------------------------
-- One instance
-- ---------------------------------------------------------------------------

def getInstance (instanceId : ℤ) : Svc Instance := do
  match ← dbGet (·.instances) instanceId with
  | some inst => return inst
  | none => raise (.notFound "Instance" instanceId)

theorem getInstance_triple (instanceId : ℤ) (s : Session) :
    Triple (getInstance instanceId) s
      (fun i s' => s' = s ∧ i ∈ s.view.instances ∧ i.id = instanceId)
      (fun _ s' => s' = s) := by
  refine Triple.bind (dbGet_triple _ _ s) ?_
  rintro (_ | i) _ ⟨rfl, hi⟩
  · exact Triple.raise rfl
  · exact Triple.pure ⟨rfl, Table.find?_eq_some.mp hi⟩

theorem getInstance_refused {s : Session} {instanceId : ℤ}
    (h : int64 instanceId → instanceId ∉ s.view.instances.ids) :
    (getInstance instanceId).run s =
      (.error (if int64 instanceId then .notFound "Instance" instanceId else .internal), s) := by
  rw [getInstance, run_bind_ite (dbGet_run _ _ _)]
  split
  · next hid =>
    rw [Table.find?_eq_none.mpr (h hid)]
    rfl
  · rfl

theorem getInstance_run {s : Session} {i : Instance} (hi : i ∈ s.view.instances)
    (hid : int64 i.id) : (getInstance i.id).run s = (.ok i, s) := by
  have hget : (dbGet (·.instances) i.id).run s = _ := dbGet_found hi
  rw [getInstance, run_bind_ite hget, Instance.row_id, if_pos hid]
  rfl

/-- The CPU reading a request asks for: the given one, or zero for an
instance that is not to run. -/
def InstanceStatusUpdate.nextCpuUsage (data : InstanceStatusUpdate) : Option ℚ :=
  if data.cpuUsage = none ∧ data.status ≠ .running then some 0 else data.cpuUsage

def InstanceStatusUpdate.isNoop (data : InstanceStatusUpdate) (inst : Instance) : Prop :=
  inst.status = data.status ∧ ∀ cpu ∈ data.nextCpuUsage, inst.cpuUsage = cpu

instance (data : InstanceStatusUpdate) (inst : Instance) : Decidable (data.isNoop inst) :=
  inferInstanceAs (Decidable (_ ∧ _))

def InstanceStatusUpdate.apply (data : InstanceStatusUpdate) (inst : Instance) (updatedAt : ℤ) :
    Instance :=
  { inst with
    status := data.status
    cpuUsage := data.nextCpuUsage.getD inst.cpuUsage
    updatedAt := updatedAt }

theorem InstanceStatusUpdate.apply_cpuUsage_range (data : InstanceStatusUpdate) (inst : Instance)
    (updatedAt : ℤ) :
    (data.apply inst updatedAt).cpuUsage = inst.cpuUsage ∨
      0 ≤ (data.apply inst updatedAt).cpuUsage ∧ (data.apply inst updatedAt).cpuUsage ≤ 100 := by
  simp only [InstanceStatusUpdate.apply, InstanceStatusUpdate.nextCpuUsage]
  split
  · simp
  · cases hcpu : data.cpuUsage with
    | none => exact .inl rfl
    | some cpu => exact .inr (data.cpuUsage_range cpu hcpu)

/-- A second reading when the first is the loaded `updatedAt`: that column is
then left to `onupdate`. -/
def updateStamp (env : Env) (k : ℕ) (loaded : Instance) : ℤ :=
  if env.clock k = loaded.updatedAt then env.clock (k + 1) else env.clock k

def updateStatus (env : Env) (instanceId : ℤ) (data : InstanceStatusUpdate) : Svc Instance := do
  let inst ← getInstance instanceId
  if data.isNoop inst then
    return inst
  else
    let now ← utcnow env
    -- a column set to the value it has is left out of the UPDATE, and then `onupdate` stamps it
    let updatedAt ← if now = inst.updatedAt then utcnow env else pure now
    let updated := data.apply inst updatedAt
    modify fun s => { s with view := { s.view with instances := s.view.instances.update updated } }
    commit
    return updated

theorem updateStatus_run (env : Env) (data : InstanceStatusUpdate) {s : Session} {r : Instance}
    (hr : r ∈ s.view.instances) (hid : int64 r.id) :
    (updateStatus env r.id data).run s =
      if data.isNoop r then (.ok r, s)
      else
        let updated := data.apply r (updateStamp env s.tick r)
        let db := { s.view with instances := s.view.instances.update updated }
        let tick := if env.clock s.tick = r.updatedAt then s.tick + 2 else s.tick + 1
        (.ok updated, { committed := db, view := db, tick := tick }) := by
  simp only [updateStatus, run_bind, getInstance_run hr hid, run_ite]
  split
  · rfl
  · simp only [utcnow_run, run_pure, updateStamp]
    split
    · rfl
    · rfl

/-- `db.delete(instance)`: the ORM deletes the instance's alerts with it. -/
def deleteCascade (db : Database) (instanceId : ℤ) : Database :=
  { db with
    instances := db.instances.delete (·.id == instanceId)
    alerts := db.alerts.delete (·.instanceId == instanceId) }

def deleteInstance (instanceId : ℤ) : Svc Unit := do
  let inst ← getInstance instanceId
  if inst.status = .running then
    raise (.activeInstance instanceId)
  else
    modify fun s => { s with view := deleteCascade s.view instanceId }
    commit

theorem deleteInstance_missing {s : Session} {instanceId : ℤ}
    (hfind : s.view.instances.find? instanceId = none) (hid : int64 instanceId) :
    (deleteInstance instanceId).run s = (.error (.notFound "Instance" instanceId), s) := by
  have habsent : instanceId ∉ s.view.instances.ids := Table.find?_eq_none.mp hfind
  rw [deleteInstance, run_bind, getInstance_refused fun _ => habsent, if_pos hid]

theorem deleteInstance_run {s : Session} {i : Instance} (hi : i ∈ s.view.instances)
    (hid : int64 i.id) :
    (deleteInstance i.id).run s =
      if i.status = .running then (.error (.activeInstance i.id), s)
      else (.ok (), { s with
        committed := deleteCascade s.view i.id
        view := deleteCascade s.view i.id }) := by
  simp only [deleteInstance, run_bind, getInstance_run hi hid, run_ite]
  split
  · rfl
  · rfl

end CloudMonitor
