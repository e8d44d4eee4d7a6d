import CloudMonitor.Deps
import CloudMonitor.Lib.Format
import CloudMonitor.Services.Alerts

/-!
# Monitoring scans

A scan walks every matching instance in batches ordered by id, records an
alert for each one that has no unresolved alert of the scan's type, and
returns one page of the matches. `scan_run` gives the result of the whole
walk: the page of the matching rows and the alerts added for all of them.
-/

namespace CloudMonitor

open Fallible

/-- One detection scan: which instances match, and the alert a match gets. -/
structure ScanJob where
  clientIds : Option Select
  condition : Instance → Bool
  alertType : AlertType
  message : Instance → String

def ScanJob.query (job : ScanJob) (db : Database) (i : Instance) : Bool :=
  job.condition i && inScope job.clientIds db i.clientId

/-- The columns an inserted alert is given; the others have defaults. -/
structure NewAlert where
  instanceId : ℤ
  alertType : AlertType
  message : String
  deriving DecidableEq

def NewAlert.row (a : NewAlert) (id : ℤ) (detectedAt : ℤ) : Alert :=
  { id := id
    instanceId := a.instanceId
    alertType := a.alertType
    message := a.message
    isResolved := false
    detectedAt := detectedAt
    resolvedAt := none }

@[simp] theorem NewAlert.row_id (a : NewAlert) (id detectedAt : ℤ) :
    Row.id (a.row id detectedAt) = id := rfl

def instancesWithUnresolvedAlert (alerts : Table Alert) (instanceIds : List ℤ)
    (alertType : AlertType) :
    List ℤ :=
  (alerts.rows.filter (fun a =>
    instanceIds.contains a.instanceId && a.alertType == alertType && !a.isResolved)).map
    Alert.instanceId

def newAlerts (job : ScanJob) (existing : List ℤ) (batch : List Instance) : List NewAlert :=
  (batch.filter (fun i => !existing.contains i.id)).map fun i =>
    { instanceId := i.id, alertType := job.alertType, message := job.message i }

def insertAlert (env : Env) (a : NewAlert) : Svc Unit := do
  let _ ← insertRow env (·.alerts) (fun db t => { db with alerts := t }) a.row a.row_id

def recordAlerts (env : Env) (job : ScanJob) (instances : List Instance) : Svc Bool := do
  if instances.isEmpty then
    return false
  else
    let existing :=
      instancesWithUnresolvedAlert (← view).alerts (instances.map Instance.id) job.alertType
    let new := newAlerts job existing instances
    if new.isEmpty then
      return false
    else
      each (insertAlert env) new
      return true

-- ---------------------------------------------------------------------------
-- The walk
-- ---------------------------------------------------------------------------

structure Walk where
  items : List Instance := []
  total : ℕ := 0
  recorded : Bool := false
  lastId : ℤ := 0
  deriving DecidableEq

/-- `SELECT … WHERE id > last_id ORDER BY id LIMIT ID_BATCH_SIZE`. -/
def nextBatch (env : Env) (job : ScanJob) (lastId : ℤ) (db : Database) : List Instance :=
  (db.instances.rows.filter (fun i => job.query db i && lastId < i.id)).take env.idBatchSize

/-- One matching instance: kept when its position lies in the window. -/
def Walk.visit (page size : ℕ) (v : Walk) (i : Instance) : Walk :=
  { v with
    items := if (page - 1) * size ≤ v.total ∧ v.total < (page - 1) * size + size then v.items ++ [i]
      else v.items
    total := v.total + 1 }

def Walk.visitAll (page size : ℕ) (v : Walk) (batch : List Instance) : Walk :=
  batch.foldl (Walk.visit page size) v

def Walk.next (page size : ℕ) (v : Walk) (batch : List Instance) (recorded : Bool) : Walk :=
  { v.visitAll page size batch with
    recorded := v.recorded || recorded
    lastId := (batch.getLast?.map Instance.id).getD v.lastId }

/-- The loop of `_scan`. One more turn than there are instances is never
needed (`scanLoop_run`). -/
def scanLoop (env : Env) (job : ScanJob) (page size : ℕ) : ℕ → Walk → Svc Walk
  | 0, v => return v
  | fuel + 1, v => do
    let batch := nextBatch env job v.lastId (← view)
    if batch.isEmpty then
      return v
    else
      let recorded ← recordAlerts env job batch
      let v := v.next page size batch recorded
      if batch.length < env.idBatchSize then return v else scanLoop env job page size fuel v

def commitIfRecorded (recorded : Bool) : Svc Unit :=
  if recorded then commit else return ()

def scan (env : Env) (job : ScanJob) (page size : ℕ) : Svc (Page Instance) := do
  let fuel := (← view).instances.rows.length + 1
  let v ← scanLoop env job page size fuel {}
  commitIfRecorded v.recorded
  return { items := v.items, total := v.total, totalPages := (v.total + size - 1) / size }

-- ---------------------------------------------------------------------------
-- The three scans
-- ---------------------------------------------------------------------------

def isWarning (settings : Settings) (i : Instance) : Bool :=
  settings.cpuWarningThreshold ≤ i.cpuUsage && i.status == .running

def warningsJob (env : Env) (clientIds : Option Select) : ScanJob where
  clientIds := clientIds
  condition := isWarning env.settings
  alertType := .cpuHigh
  message i :=
    "CPU usage " ++ fixed 1 i.cpuUsage ++ "% >= " ++ fixed 0 env.settings.cpuWarningThreshold ++
      "% on instance \x27" ++ i.instanceName ++ "\x27 (" ++ i.region ++ ")"

def errorsJob (clientIds : Option Select) : ScanJob where
  clientIds := clientIds
  condition i := i.status == .error
  alertType := .errorDetected
  message i :=
    "[CRITICAL] Instance \x27" ++ i.instanceName ++ "\x27 (" ++ i.region ++ ") is in ERROR state"

/-- `now - timedelta(hours=LONG_STOPPED_HOURS)`. -/
def longStoppedBound (env : Env) (now : ℤ) : ℤ := now - hours env.settings.longStoppedHours

def longStoppedJob (env : Env) (clientIds : Option Select) (now : ℤ) : ScanJob where
  clientIds := clientIds
  condition i := i.status == .stopped && i.updatedAt ≤ longStoppedBound env now
  alertType := .longStopped
  message i :=
    "Instance \x27" ++ i.instanceName ++ "\x27 has been STOPPED for " ++
      fixed 0 (totalSeconds (now - i.updatedAt) / 3600) ++ " hours (>= " ++
      toString env.settings.longStoppedHours ++ "h)"

def checkWarnings (env : Env) (clientIds : Option Select) (page size : ℕ) : Svc (Page Instance) :=
  scan env (warningsJob env clientIds) page size

def checkErrors (env : Env) (clientIds : Option Select) (page size : ℕ) : Svc (Page Instance) :=
  scan env (errorsJob clientIds) page size

def checkLongStopped (env : Env) (clientIds : Option Select) (page size : ℕ) :
    Svc (Page Instance) := do
  let now ← utcnow env
  scan env (longStoppedJob env clientIds now) page size

-- ---------------------------------------------------------------------------
-- The report
-- ---------------------------------------------------------------------------

def reportAlertLimit : ℕ := 20

structure MonitorReport where
  generatedAt : ℤ
  instanceCountByStatus : List (InstanceStatus × ℕ)
  warningCount : ℕ
  totalMonthlyCost : ℚ
  unresolvedAlertCount : ℕ
  unresolvedAlerts : List Alert
  deriving DecidableEq

def visibleInstances (clientIds : Option Select) (db : Database) : List Instance :=
  db.instances.rows.filter (fun i => inScope clientIds db i.clientId)

def unresolvedAlerts (clientIds : Option Select) (db : Database) : List Alert :=
  (scopedAlerts clientIds db).filter (fun a => !a.isResolved)

/-- The report always joins the alerts with their instances, also without a
scope. -/
def buildReport (env : Env) (clientIds : Option Select) : Svc MonitorReport := do
  let db ← view
  let instances := visibleInstances clientIds db
  let unresolved := unresolvedAlerts clientIds db
  let now ← utcnow env
  return {
    generatedAt := now
    instanceCountByStatus := [InstanceStatus.running, .stopped, .error].map fun status =>
      (status, (instances.filter (·.status == status)).length)
    warningCount := (instances.filter (isWarning env.settings)).length
    totalMonthlyCost := roundTo 2 (instances.map Instance.monthlyCost).sum
    unresolvedAlertCount := unresolved.length
    unresolvedAlerts := (unresolved.insertionSort newestFirst).take reportAlertLimit }

end CloudMonitor
