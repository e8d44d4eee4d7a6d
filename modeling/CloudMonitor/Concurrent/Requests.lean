import CloudMonitor.Api
import CloudMonitor.Concurrent.Resolution
import CloudMonitor.Concurrent.Status
import CloudMonitor.Lib.RelyGuarantee
import CloudMonitor.Lib.Tracked
import CloudMonitor.Services.MonitorLaws

/-!
# Writing requests in flight

The endpoints that write, one SQL statement at a time, from the caller's row
to the answer. A statement reads the committed rows and the session's own. A
row a session has loaded is not loaded again, so the service's second
`db.get` is no statement. An `INSERT`, `UPDATE` or `DELETE` and the commit
right after it are one; only a scan keeps rows uncommitted across statements.
-/

namespace CloudMonitor

open Fallible

/-- The rows of all sessions, with the session an uncommitted alert belongs to. -/
structure LiveDatabase (ι : Type) where
  members : Table Member
  clients : Table Client
  instances : Tracked ι Instance
  alerts : Tracked ι Alert
  owner : ℤ → Option ι
  tick : ℕ

abbrev Statement (ι : Type) : Type → Type := Fallible (LiveDatabase ι) ApiError

abbrev Live (ι : Type) : Type → Type := Program (LiveDatabase ι) ApiError

namespace LiveDatabase

variable {ι : Type}

def start (w : World) : LiveDatabase ι where
  members := w.db.members
  clients := w.db.clients
  instances := .ofTable w.db.instances
  alerts := .ofTable w.db.alerts
  owner _ := none
  tick := w.tick

/-- All rows, also those not yet committed. -/
def db (s : LiveDatabase ι) : Database where
  members := s.members
  clients := s.clients
  instances := s.instances.table
  alerts := s.alerts.table

def committed (s : LiveDatabase ι) : Database :=
  { s.db with alerts := s.alerts.table.delete (fun a => (s.owner a.id).isSome) }

variable [DecidableEq ι]

/-- The alerts a statement of session `i` reads. -/
def visible (s : LiveDatabase ι) (i : ι) : Table Alert :=
  s.alerts.table.delete (fun a => s.owner a.id ≠ none ∧ s.owner a.id ≠ some i)

end LiveDatabase

-- ---------------------------------------------------------------------------
-- Statements
-- ---------------------------------------------------------------------------

namespace Statement

variable {ι : Type}

def bindParam (n : ℤ) : Statement ι Unit := if int64 n then return () else raise .internal

def utcnow (env : Env) : Statement ι ℤ := do
  let s ← get
  modify fun s => { s with tick := s.tick + 1 }
  return env.clock s.tick

def selectMember (id : ℤ) : Statement ι (Option Member) := do
  bindParam id
  return (← get).members.find? id

def selectClient (id : ℤ) : Statement ι (Option Client) := do
  bindParam id
  return (← get).clients.find? id

/-- `SELECT EXISTS (SELECT … WHERE managerId = … AND id = …)`. -/
def selectExists (scope : Select) (clientId : ℤ) : Statement ι Bool := do
  return clientId ∈ scope (← get).clients

def insertClient (env : Env) (row : ℤ → ℤ → Client) (hid : ∀ id t, Row.id (row id t) = id) :
    Statement ι Client := do
  let s ← get
  modify fun s => { s with
    clients := s.clients.insertNew (env.newId s.tick) (env.newId_fresh s.tick)
      (fun id => row id (env.clock s.tick)) (fun id => hid id _)
    tick := s.tick + 1 }
  return row (env.newId s.tick s.clients.ids) (env.clock s.tick)

/-- `UPDATE instances SET … WHERE id = …` with the columns that differ from the
copy. Without `updatedAt` among them `onupdate` stamps the row. An `UPDATE`
that finds no row is an error of the ORM. -/
def updateInstance (env : Env) (copy : Instance) (body : InstanceStatusUpdate) (now : ℤ) :
    Statement ι Unit := do
  let s ← get
  match s.instances.table.find? copy.id with
  | none => raise .internal
  | some row =>
    let unchanged := now = copy.updatedAt
    let new := body.apply copy (if unchanged then env.clock s.tick else now)
    modify fun s => { s with
      instances := s.instances.put (s.instances.table.update { row with
        status := (changed copy.status new.status).getD row.status
        cpuUsage := (changed copy.cpuUsage new.cpuUsage).getD row.cpuUsage
        updatedAt := new.updatedAt })
      tick := if unchanged then s.tick + 1 else s.tick }

/-- `DELETE FROM alerts WHERE id = …` for each loaded alert, then the instance.
An uncommitted alert of another session is not among them, whatever its id. -/
def deleteInstance (instanceId : ℤ) (alertIds : List ℤ) : Statement ι Unit :=
  modify fun s => { s with
    instances := s.instances.remove (·.id == instanceId)
    alerts := s.alerts.remove (fun a => alertIds.contains a.id && (s.owner a.id).isNone) }

/-- `db.refresh(row)` is an error when the row is gone. -/
def refresh {α : Type} [Row α] (table : LiveDatabase ι → Table α) (id : ℤ) : Statement ι α := do
  match (table (← get)).find? id with
  | none => raise .internal
  | some row => return row

variable [DecidableEq ι]

/-- The session holds the row it inserts. -/
def insertInstance (env : Env) (i : ι) (row : ℤ → ℤ → Instance)
    (hid : ∀ id t, Row.id (row id t) = id) : Statement ι Instance := do
  let s ← get
  let id := env.newId s.tick s.instances.table.ids
  modify fun s => { s with
    instances := (s.instances.put (s.instances.table.insertNew (env.newId s.tick)
      (env.newId_fresh s.tick) (fun id => row id (env.clock s.tick))
      (fun id => hid id _))).see i [id]
    tick := s.tick + 1 }
  return row id (env.clock s.tick)

def selectInstance (i : ι) (id : ℤ) : Statement ι (Option Instance) := do
  bindParam id
  modify fun s => { s with instances := s.instances.see i [id] }
  return (← get).instances.table.find? id

/-- The alerts `db.delete` loads to delete them with their instance. -/
def selectAlertIds (i : ι) (instanceId : ℤ) : Statement ι (List ℤ) := do
  let s ← get
  let alertIds := ((s.visible i).rows.filter (fun a => a.instanceId == instanceId)).map Alert.id
  modify fun s => { s with alerts := s.alerts.see i alertIds }
  return alertIds

/-- `alerts LEFT JOIN instances`, one alert. -/
def selectAlert (i : ι) (id : ℤ) : Statement ι (Option (Alert × Option Instance)) := do
  bindParam id
  let s ← get
  match (s.visible i).find? id with
  | none => return none
  | some alert =>
    modify fun s => { s with
      alerts := s.alerts.see i [alert.id]
      instances := s.instances.see i [alert.instanceId] }
    return some (alert, s.instances.table.find? alert.instanceId)

def updateAlert (i : ι) (copy : Alert) (now : ℤ) : Statement ι Unit := do
  match ((← get).visible i).find? copy.id with
  | none => raise .internal
  | some row =>
    let write : AlertWrite := { resolvedAt := changed copy.resolvedAt (some now) }
    modify fun s => { s with alerts := s.alerts.put (s.alerts.table.update (write.exec row)) }

def selectBatch (env : Env) (i : ι) (job : ScanJob) (lastId : ℤ) : Statement ι (List Instance) := do
  let s ← get
  let batch := nextBatch env job lastId s.db
  modify fun s => { s with instances := s.instances.see i (batch.map Instance.id) }
  return batch

def selectUnresolved (i : ι) (instanceIds : List ℤ) (alertType : AlertType) :
    Statement ι (List ℤ) := do
  return instancesWithUnresolvedAlert ((← get).visible i) instanceIds alertType

/-- The rows stay uncommitted. -/
def insertAlerts (env : Env) (i : ι) (new : List NewAlert) : Statement ι Unit :=
  modify fun s =>
    let alerts := addAlerts env s.tick new s.alerts.table
    { s with
      alerts := s.alerts.put alerts
      owner := fun id => if id ∈ alerts.ids ∧ id ∉ s.alerts.table.ids then some i else s.owner id
      tick := s.tick + new.length }

def commit (i : ι) : Statement ι Unit :=
  modify fun s => { s with owner := fun id => if s.owner id = some i then none else s.owner id }

end Statement

-- ---------------------------------------------------------------------------
-- Requests
-- ---------------------------------------------------------------------------

/-- The endpoints that write. -/
inductive WriteRequest
  | createInstance (body : InstanceCreate)
  | updateStatus (instanceId : ℤ) (body : InstanceStatusUpdate)
  | deleteInstance (instanceId : ℤ)
  | warnings (page : PageParam) (size : SizeParam)
  | errors (page : PageParam) (size : SizeParam)
  | longStopped (page : PageParam) (size : SizeParam)
  | resolveAlert (alertId : ℤ)
  | createClient (body : ClientCreate)

def WriteRequest.request : WriteRequest → MemberRequest
  | .createInstance body => .createInstance body
  | .updateStatus instanceId body => .updateStatus instanceId body
  | .deleteInstance instanceId => .deleteInstance instanceId
  | .warnings page size => .warnings page size
  | .errors page size => .errors page size
  | .longStopped page size => .longStopped page size
  | .resolveAlert alertId => .resolveAlert alertId
  | .createClient body => .createClient body

def ClientCreate.row (body : ClientCreate) (id createdAt : ℤ) : Client where
  id := id
  clientName := body.clientName
  contractPlan := body.contractPlan
  managerId := body.managerId
  createdAt := createdAt

@[simp] theorem ClientCreate.row_id (body : ClientCreate) (id createdAt : ℤ) :
    Row.id (body.row id createdAt) = id := rfl

def InstanceCreate.row (body : InstanceCreate) (env : Env) (launchedAt id updatedAt : ℤ) :
    Instance where
  id := id
  instanceName := body.instanceName
  region := body.region
  instanceType := body.instanceType
  status := body.status
  cpuUsage := body.cpuUsage
  monthlyCost := env.settings.unitPrices body.instanceType
  clientId := body.clientId
  launchedAt := launchedAt
  updatedAt := updatedAt

@[simp] theorem InstanceCreate.row_id (body : InstanceCreate) (env : Env)
    (launchedAt id updatedAt : ℤ) : Row.id (body.row env launchedAt id updatedAt) = id := rfl

namespace Live

open Program Statement

variable {ι : Type}

def getCurrentMember (sub : ℤ) : Live ι Member := do
  match ← atomic (selectMember sub) with
  | some member => return member
  | none => .fail (.http 401 "Member no longer exists" [])

def assertClientAccess (member : Member) (client : Client) : Live ι Unit :=
  if member.role = .admin then return ()
  else if client.managerId ≠ member.id then .fail forbidden
  else return ()

def assertClientIdAccess (member : Member) (clientId : ℤ) : Live ι Unit :=
  match accessibleClientIds member with
  | none => return ()
  | some scope => do
    if ← atomic (selectExists scope clientId) then return () else .fail forbidden

def createClient (env : Env) (member : Member) (body : ClientCreate) : Live ι Payload := do
  if member.role ≠ .admin then
    .fail (.http 403 "ADMIN role required" [])
  else
    match ← atomic (selectMember body.managerId) with
    | none => .fail (.notFound "Member (manager)" body.managerId)
    | some manager =>
      if manager.role ≠ .clientManager then
        .fail (.validation ("managerId " ++ toString body.managerId ++
          " must belong to a CLIENT_MANAGER (found role " ++ manager.role.value ++ ")"))
      else
        let client ← atomic (insertClient env body.row body.row_id)
        return .client (← atomic (refresh LiveDatabase.clients client.id))

variable [DecidableEq ι]

def createInstance (env : Env) (i : ι) (member : Member) (body : InstanceCreate) :
    Live ι Payload := do
  match ← atomic (selectClient body.clientId) with
  | none => .fail (.notFound "Client" body.clientId)
  | some client =>
    assertClientAccess member client
    let launchedAt ← atomic (Statement.utcnow env)
    let inst ← atomic (insertInstance env i (body.row env launchedAt)
      (body.row_id env launchedAt))
    return .inst (← atomic (refresh (·.instances.table) inst.id))

def ownInstance (i : ι) (member : Member) (instanceId : ℤ) : Live ι Instance := do
  match ← atomic (selectInstance i instanceId) with
  | none => .fail (.notFound "Instance" instanceId)
  | some inst =>
    assertClientIdAccess member inst.clientId
    return inst

def updateStatus (env : Env) (i : ι) (member : Member) (instanceId : ℤ)
    (body : InstanceStatusUpdate) : Live ι Payload := do
  let inst ← ownInstance i member instanceId
  if body.isNoop inst then
    return .inst inst
  else
    let now ← atomic (Statement.utcnow env)
    atomic (updateInstance env inst body now)
    return .inst (← atomic (refresh (·.instances.table) inst.id))

def deleteInstance (i : ι) (member : Member) (instanceId : ℤ) : Live ι Payload := do
  let inst ← ownInstance i member instanceId
  if inst.status = .running then
    .fail (.activeInstance instanceId)
  else
    let alertIds ← atomic (selectAlertIds i inst.id)
    atomic (Statement.deleteInstance inst.id alertIds)
    return .noContent

def recordAlerts (env : Env) (i : ι) (job : ScanJob) (instances : List Instance) : Live ι Bool := do
  let existing ← atomic (selectUnresolved i (instances.map Instance.id) job.alertType)
  let new := newAlerts job existing instances
  if new.isEmpty then
    return false
  else
    atomic (insertAlerts env i new)
    return true

def commitIfRecorded (i : ι) (recorded : Bool) : Live ι Unit :=
  if recorded then atomic (Statement.commit i) else return ()

/-- The loop of `_scan`. The rows may grow while it runs, so nothing bounds
its turns; `turns` is how many a run lets it have. -/
def scanLoop (env : Env) (i : ι) (job : ScanJob) (page size : ℕ) : ℕ → Walk → Live ι Walk
  | 0, _ => .fail .internal
  | turns + 1, v => do
    let batch ← atomic (selectBatch env i job v.lastId)
    if batch.isEmpty then
      return v
    else
      let recorded ← recordAlerts env i job batch
      let v := v.next page size batch recorded
      if batch.length < env.idBatchSize then return v else scanLoop env i job page size turns v

def scan (env : Env) (i : ι) (turns : ℕ) (job : ScanJob) (page : PageParam) (size : SizeParam) :
    Live ι Payload := do
  let v ← scanLoop env i job page.val size.val turns {}
  commitIfRecorded i v.recorded
  return .instances (pageResponse
    { items := v.items, total := v.total, totalPages := (v.total + size.val - 1) / size.val }
    page size)

def longStopped (env : Env) (i : ι) (turns : ℕ) (member : Member) (page : PageParam)
    (size : SizeParam) : Live ι Payload := do
  let now ← atomic (Statement.utcnow env)
  scan env i turns (longStoppedJob env (accessibleClientIds member) now) page size

def resolveAlert (env : Env) (i : ι) (member : Member) (alertId : ℤ) : Live ι Payload := do
  match ← atomic (selectAlert i alertId) with
  | none => .fail (.http 404 ("Alert " ++ toString alertId ++ " not found") [])
  | some (_, none) => .fail .internal
  | some (alert, some inst) =>
    assertClientIdAccess member inst.clientId
    if alert.isResolved then
      return .alert alert
    else
      let now ← atomic (Statement.utcnow env)
      atomic (updateAlert i alert now)
      return .alert (← atomic (refresh (LiveDatabase.visible · i) alert.id))

def handle (env : Env) (i : ι) (turns : ℕ) (member : Member) : WriteRequest → Live ι Payload
  | .createInstance body => createInstance env i member body
  | .updateStatus instanceId body => updateStatus env i member instanceId body
  | .deleteInstance instanceId => deleteInstance i member instanceId
  | .warnings page size =>
    scan env i turns (warningsJob env (accessibleClientIds member)) page size
  | .errors page size => scan env i turns (errorsJob (accessibleClientIds member)) page size
  | .longStopped page size => longStopped env i turns member page size
  | .resolveAlert alertId => resolveAlert env i member alertId
  | .createClient body => createClient env member body

def answer (env : Env) (i : ι) (turns : ℕ) (sub : ℤ) (req : WriteRequest) : Live ι Payload := do
  let member ← getCurrentMember sub
  handle env i turns member req

end Live

end CloudMonitor
