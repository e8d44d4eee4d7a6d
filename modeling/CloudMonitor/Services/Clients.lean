import CloudMonitor.Deps
import CloudMonitor.Lib.Calendar
import CloudMonitor.Lib.Format
import CloudMonitor.Pagination

/-!
# Clients

Registration and listing, and the three calculations over one client's
instances: cost, forecast and SLA uptime. Arithmetic is exact.
-/

namespace CloudMonitor

open Fallible

structure ClientCreate where
  clientName : String
  contractPlan : ContractPlan
  managerId : ℤ
  clientName_length : 1 ≤ clientName.length ∧ clientName.length ≤ 100

def createClient (env : Env) (data : ClientCreate) : Svc Client := do
  match ← dbGet (·.members) data.managerId with
  | none => raise (.notFound "Member (manager)" data.managerId)
  | some manager =>
    if manager.role ≠ .clientManager then
      raise (.validation ("managerId " ++ toString data.managerId ++
        " must belong to a CLIENT_MANAGER (found role " ++ manager.role.value ++ ")"))
    else
      let client ← insertRow env (·.clients) (fun db t => { db with clients := t })
        (fun id createdAt =>
          { id := id
            clientName := data.clientName
            contractPlan := data.contractPlan
            managerId := data.managerId
            createdAt := createdAt })
      commit
      return client

def clientsQuery (clientIds : Option Select) (db : Database) : List Client :=
  db.clients.rows.filter (fun c => inScope clientIds db c.id)

def listClients (clientIds : Option Select) (page size : ℕ) : Svc (Page Client) :=
  paginate (clientsQuery clientIds) page size

def getClient (clientId : ℤ) : Svc Client := do
  match ← dbGet (·.clients) clientId with
  | some client => return client
  | none => raise (.notFound "Client" clientId)

def clientInstancesQuery (clientId : ℤ) (db : Database) : List Instance :=
  db.instances.rows.filter (fun i => i.clientId == clientId)

def getClientInstances (clientId : ℤ) : Svc (List Instance) := do
  let _ ← getClient clientId
  return clientInstancesQuery clientId (← view)

def listClientInstances (clientId : ℤ) (page size : ℕ) : Svc (Page Instance) := do
  let _ ← getClient clientId
  paginate (clientInstancesQuery clientId) page size

theorem getClient_triple (clientId : ℤ) (s : Session) :
    Triple (getClient clientId) s (fun c s' => s' = s ∧ c ∈ s.view.clients ∧ c.id = clientId)
      (fun _ s' => s' = s) := by
  refine Triple.bind (dbGet_triple _ _ s) ?_
  rintro (_ | c) _ ⟨rfl, hc⟩
  · exact Triple.raise rfl
  · exact Triple.pure ⟨rfl, Table.find?_eq_some.mp hc⟩

theorem getClient_run {s : Session} {c : Client} (hc : c ∈ s.view.clients) :
    (getClient c.id).run s = if int64 c.id then (.ok c, s) else (.error .internal, s) := by
  have hget : (dbGet (·.clients) c.id).run s = _ := dbGet_found hc
  rw [getClient, run_bind_ite hget]
  rfl

theorem getClient_absent {s : Session} {clientId : ℤ} (h : clientId ∉ s.view.clients.ids) :
    (getClient clientId).run s =
      (.error (if int64 clientId then .notFound "Client" clientId else .internal), s) := by
  rw [getClient, run_bind_ite (dbGet_absent h)]
  split <;> rfl

theorem listClientInstances_triple (clientId : ℤ) (page size : ℕ) (s : Session) :
    Triple (listClientInstances clientId page size) s
      (fun p s' => s' = s ∧ p = pageOf (clientInstancesQuery clientId s.view) page size)
      (fun _ s' => s' = s) := by
  refine Triple.bind (getClient_triple clientId s) ?_
  rintro _ _ ⟨rfl, -⟩
  exact paginate_triple _ _ _ _

-- ---------------------------------------------------------------------------
-- Dates
-- ---------------------------------------------------------------------------

def civilDate (t : ℤ) : CivilDate := CivilDate.ofDays (t / dayMicros)

/-- `now.replace(day=1, hour=0, minute=0, second=0, microsecond=0)`. -/
def monthStart (now : ℤ) : ℤ :=
  (now / dayMicros - ((civilDate now).day - 1)) * dayMicros

/-- `now.strftime("%Y-%m")`. -/
def yearMonth (now : ℤ) : String :=
  toString (civilDate now).year ++ "-" ++ zeroPadded 2 (civilDate now).month.toNat

-- ---------------------------------------------------------------------------
-- Cost
-- ---------------------------------------------------------------------------

structure InstanceCost where
  instanceId : ℤ
  instanceName : String
  instanceType : InstanceType
  status : InstanceStatus
  monthlyCost : ℚ
  deriving DecidableEq

structure ClientCost where
  clientId : ℤ
  clientName : String
  month : String
  instanceCount : ℕ
  totalMonthlyCost : ℚ
  costByInstance : List InstanceCost
  deriving DecidableEq

def getClientCost (env : Env) (clientId : ℤ) : Svc ClientCost := do
  let client ← getClient clientId
  let instances ← getClientInstances clientId
  let now ← utcnow env
  return {
    clientId := client.id
    clientName := client.clientName
    month := yearMonth now
    instanceCount := instances.length
    totalMonthlyCost := roundTo 2 (instances.map Instance.monthlyCost).sum
    costByInstance := instances.map fun i =>
      { instanceId := i.id
        instanceName := i.instanceName
        instanceType := i.instanceType
        status := i.status
        monthlyCost := i.monthlyCost } }

structure ForecastEntry where
  count : ℕ
  unitPrice : ℚ
  subtotal : ℚ
  deriving DecidableEq

structure CostForecast where
  clientId : ℤ
  clientName : String
  forecastMonth : String
  runningInstanceCount : ℕ
  forecastCost : ℚ
  breakdown : List (InstanceType × ForecastEntry)
  deriving DecidableEq

/-- `GROUP BY instanceType` over a client's running instances: one row per
type that has any, in the order of the types' names. -/
def runningCounts (clientId : ℤ) (db : Database) : List (InstanceType × ℕ) :=
  [InstanceType.large, .medium, .small].filterMap fun t =>
    let n := (db.instances.rows.filter (fun i =>
      i.clientId == clientId && i.status == .running && i.instanceType == t)).length
    if n = 0 then none else some (t, n)

def nextMonth (now : ℤ) : String :=
  let date := civilDate now
  let year := date.year + if date.month = 12 then 1 else 0
  zeroPadded 4 year.toNat ++ "-" ++ zeroPadded 2 (date.month % 12 + 1).toNat

def getCostForecast (env : Env) (clientId : ℤ) : Svc CostForecast := do
  let client ← getClient clientId
  let counts := runningCounts clientId (← view)
  let breakdown := counts.map fun (t, count) =>
    let unitPrice := env.settings.unitPrices t
    (t, { count := count, unitPrice := unitPrice, subtotal := roundTo 2 (count * unitPrice) :
      ForecastEntry })
  let now ← utcnow env
  return {
    clientId := client.id
    clientName := client.clientName
    forecastMonth := nextMonth now
    runningInstanceCount := (breakdown.map fun e => e.2.count).sum
    forecastCost := roundTo 2 (breakdown.map fun e => e.2.subtotal).sum
    breakdown := breakdown }

-- ---------------------------------------------------------------------------
-- SLA
-- ---------------------------------------------------------------------------

structure SlaDetail where
  instanceId : ℤ
  instanceName : String
  status : InstanceStatus
  measuredHours : ℚ
  runningHours : ℚ
  uptimePercent : ℚ
  deriving DecidableEq

structure SlaReport where
  clientId : ℤ
  clientName : String
  contractPlan : ContractPlan
  slaThreshold : ℚ
  month : String
  uptimePercent : ℚ
  isViolation : Bool
  instanceDetails : List SlaDetail
  deriving DecidableEq

def windowStart (now : ℤ) (inst : Instance) : ℤ := max (monthStart now) inst.launchedAt

def totalHours (now : ℤ) (inst : Instance) : ℚ :=
  totalSeconds (now - windowStart now inst) / 3600

/-- The end of the time counted as up: now, or the last status change of an
instance that is not running. -/
def upEnd (now : ℤ) (inst : Instance) : ℤ :=
  if inst.status = .running then now else min (max inst.updatedAt (windowStart now inst)) now

def upHours (now : ℤ) (inst : Instance) : ℚ :=
  max (totalSeconds (upEnd now inst - windowStart now inst) / 3600) 0

def rawPercent (now : ℤ) (inst : Instance) : ℚ :=
  min (upHours now inst / totalHours now inst) 1 * 100

/-- An instance with no positive window is skipped. -/
def slaDetail (now : ℤ) (inst : Instance) : Option SlaDetail :=
  if totalHours now inst ≤ 0 then none
  else some {
    instanceId := inst.id
    instanceName := inst.instanceName
    status := inst.status
    measuredHours := roundTo 1 (totalHours now inst)
    runningHours := roundTo 1 (upHours now inst)
    uptimePercent := roundTo 3 (rawPercent now inst) }

def meanUptime (percents : List ℚ) : ℚ :=
  if percents = [] then 100 else roundTo 3 (percents.sum / percents.length)

def getSla (env : Env) (clientId : ℤ) : Svc SlaReport := do
  let client ← getClient clientId
  let instances ← getClientInstances clientId
  let now ← utcnow env
  let threshold := env.settings.slaThresholds client.contractPlan
  let details := instances.filterMap (slaDetail now)
  let uptime := meanUptime (details.map SlaDetail.uptimePercent)
  return {
    clientId := client.id
    clientName := client.clientName
    contractPlan := client.contractPlan
    slaThreshold := threshold
    month := yearMonth now
    uptimePercent := uptime
    isViolation := uptime < threshold
    instanceDetails := details }

theorem getClientInstances_triple (clientId : ℤ) (s : Session) :
    Triple (getClientInstances clientId) s
      (fun is s' => s' = s ∧ is = clientInstancesQuery clientId s.view)
      (fun _ s' => s' = s) := by
  refine Triple.bind (getClient_triple clientId s) ?_
  rintro _ _ ⟨rfl, -⟩
  exact view_bind (Triple.pure ⟨rfl, rfl⟩)

theorem getSla_triple (env : Env) (clientId : ℤ) (s : Session) :
    Triple (getSla env clientId) s
      (fun r _ => (∃ plan, r.slaThreshold = env.settings.slaThresholds plan) ∧
        r.uptimePercent = meanUptime (((clientInstancesQuery clientId s.view).filterMap
          (slaDetail (env.clock s.tick))).map SlaDetail.uptimePercent) ∧
        (r.isViolation = true ↔ r.uptimePercent < r.slaThreshold))
      (fun _ _ => True) := by
  refine Triple.bind (getClient_triple clientId s).ok ?_
  rintro c _ ⟨rfl, -⟩
  refine Triple.bind (getClientInstances_triple clientId _).ok ?_
  rintro _ _ ⟨rfl, rfl⟩
  exact utcnow_bind (Triple.pure ⟨⟨c.contractPlan, rfl⟩, rfl, by simp⟩)

end CloudMonitor
