import CloudMonitor.Services.Clients
import CloudMonitor.Services.Instances
import CloudMonitor.Services.Monitor

/-!
# The HTTP API

One request in, one answer out. Every endpoint but the first three loads the
caller from the verified token's subject; the owner of a row is checked on the
loaded client, on the client's id, or by a scope in the query.
-/

namespace CloudMonitor

open Fallible

/-- The endpoints that ask for `get_current_member`. -/
inductive MemberRequest
  | createInstance (body : InstanceCreate)
  | listInstances (page : PageParam) (size : SizeParam) (filter : InstanceFilter) (sort : String)
  | getInstance (instanceId : ℤ)
  | updateStatus (instanceId : ℤ) (body : InstanceStatusUpdate)
  | deleteInstance (instanceId : ℤ)
  | diagnoseInstance (instanceId : ℤ)
  | warnings (page : PageParam) (size : SizeParam)
  | errors (page : PageParam) (size : SizeParam)
  | longStopped (page : PageParam) (size : SizeParam)
  | report
  | listAlerts (page : PageParam) (size : SizeParam) (filter : AlertFilter)
  | resolveAlert (alertId : ℤ)
  | createClient (body : ClientCreate)
  | listClients (page : PageParam) (size : SizeParam)
  | clientInstances (clientId : ℤ) (page : PageParam) (size : SizeParam)
  | clientCost (clientId : ℤ)
  | clientCostForecast (clientId : ℤ)
  | clientSla (clientId : ℤ)

inductive Request
  | health
  | login (email password : String)
  | logout
  | ofMember (req : MemberRequest)

structure PageResponse (α : Type) where
  items : List α
  total : ℕ
  page : ℕ
  size : ℕ
  totalPages : ℕ
  deriving DecidableEq

def pageResponse (p : Page α) (page : PageParam) (size : SizeParam) : PageResponse α :=
  { items := p.items, total := p.total, page := page.val, size := size.val,
    totalPages := p.totalPages }

inductive Payload
  | noContent
  | health
  | token (sub : ℤ) (email : String) (role : Role) (name : String)
  | inst (i : Instance)
  | instances (p : PageResponse Instance)
  | diagnosis (i : Instance) (alerts : List Alert)
  | report (r : MonitorReport)
  | alert (a : Alert)
  | alerts (p : PageResponse Alert)
  | client (c : Client)
  | clients (p : PageResponse Client)
  | cost (c : ClientCost)
  | forecast (f : CostForecast)
  | sla (s : SlaReport)
  deriving DecidableEq

-- ---------------------------------------------------------------------------
-- The controllers
-- ---------------------------------------------------------------------------

namespace AuthController

/-- The part of `login` between the two calls of the rate limiter. -/
def login (env : Env) (email password : String) : Svc Payload := do
  match (← view).members.rows.find? (fun m => m.email == email) with
  | none => raise (.http 401 "Invalid email or password" [])
  | some member =>
    if env.verifyPassword password member.password then
      return .token member.id member.email member.role member.name
    else
      raise (.http 401 "Invalid email or password" [])

end AuthController

namespace InstanceController

def createInstance (env : Env) (member : Member) (body : InstanceCreate) : Svc Payload := do
  let client ← getClient body.clientId
  assertClientAccess member client
  return .inst (← CloudMonitor.createInstance env body)

def listInstances (member : Member) (page : PageParam) (size : SizeParam) (filter : InstanceFilter)
    (sort : String) : Svc Payload := do
  let p ← CloudMonitor.listInstances (accessibleClientIds member) page.val size.val filter sort
  return .instances (pageResponse p page size)

def ownInstance (member : Member) (instanceId : ℤ) : Svc Instance := do
  let inst ← CloudMonitor.getInstance instanceId
  assertClientIdAccess member inst.clientId
  return inst

def getInstance (member : Member) (instanceId : ℤ) : Svc Payload := do
  return .inst (← ownInstance member instanceId)

def updateStatus (env : Env) (member : Member) (instanceId : ℤ) (body : InstanceStatusUpdate) :
    Svc Payload := do
  let _ ← ownInstance member instanceId
  return .inst (← CloudMonitor.updateStatus env instanceId body)

def deleteInstance (member : Member) (instanceId : ℤ) : Svc Payload := do
  let _ ← ownInstance member instanceId
  CloudMonitor.deleteInstance instanceId
  return .noContent

/-- `ORDER BY detectedAt DESC LIMIT 10`. -/
def recentAlerts (env : Env) (instanceId : ℤ) (db : Database) : List Alert :=
  (env.recentFirst.arrange (db.alerts.rows.filter (fun a => a.instanceId == instanceId))).take 10

/-- Everything the diagnosis is made from; the session is closed before the
provider is asked. -/
def diagnoseInstance (env : Env) (member : Member) (instanceId : ℤ) : Svc Payload := do
  let inst ← ownInstance member instanceId
  return .diagnosis inst (recentAlerts env instanceId (← view))

end InstanceController

namespace MonitorController

def warnings (env : Env) (member : Member) (page : PageParam) (size : SizeParam) : Svc Payload := do
  let p ← checkWarnings env (accessibleClientIds member) page.val size.val
  return .instances (pageResponse p page size)

def errors (env : Env) (member : Member) (page : PageParam) (size : SizeParam) : Svc Payload := do
  let p ← checkErrors env (accessibleClientIds member) page.val size.val
  return .instances (pageResponse p page size)

def longStopped (env : Env) (member : Member) (page : PageParam) (size : SizeParam) :
    Svc Payload := do
  let p ← checkLongStopped env (accessibleClientIds member) page.val size.val
  return .instances (pageResponse p page size)

def report (env : Env) (member : Member) : Svc Payload := do
  return .report (← buildReport env (accessibleClientIds member))

end MonitorController

namespace AlertController

def listAlerts (member : Member) (page : PageParam) (size : SizeParam) (filter : AlertFilter) :
    Svc Payload := do
  let p ← CloudMonitor.listAlerts (accessibleClientIds member) page.val size.val filter
  return .alerts (pageResponse p page size)

/-- An alert whose instance is gone has no `instance` to read the owner from. -/
def resolveAlert (env : Env) (member : Member) (alertId : ℤ) : Svc Payload := do
  match ← dbGet (·.alerts) alertId with
  | none => raise (.http 404 ("Alert " ++ toString alertId ++ " not found") [])
  | some alert =>
    match (← view).instances.find? alert.instanceId with
    | none => raise .internal
    | some inst => do
      assertClientIdAccess member inst.clientId
      return .alert (← CloudMonitor.resolveAlert env alertId)

end AlertController

namespace ClientController

def createClient (env : Env) (member : Member) (body : ClientCreate) : Svc Payload := do
  let _ ← requireAdmin member
  return .client (← CloudMonitor.createClient env body)

def listClients (member : Member) (page : PageParam) (size : SizeParam) : Svc Payload := do
  let p ← CloudMonitor.listClients (accessibleClientIds member) page.val size.val
  return .clients (pageResponse p page size)

def ownClient (member : Member) (clientId : ℤ) : Svc Unit := do
  let client ← getClient clientId
  assertClientAccess member client

def clientInstances (member : Member) (clientId : ℤ) (page : PageParam) (size : SizeParam) :
    Svc Payload := do
  ownClient member clientId
  let p ← listClientInstances clientId page.val size.val
  return .instances (pageResponse p page size)

def clientCost (env : Env) (member : Member) (clientId : ℤ) : Svc Payload := do
  ownClient member clientId
  return .cost (← getClientCost env clientId)

def clientCostForecast (env : Env) (member : Member) (clientId : ℤ) : Svc Payload := do
  ownClient member clientId
  return .forecast (← getCostForecast env clientId)

def clientSla (env : Env) (member : Member) (clientId : ℤ) : Svc Payload := do
  ownClient member clientId
  return .sla (← getSla env clientId)

end ClientController

-- ---------------------------------------------------------------------------
-- Routing
-- ---------------------------------------------------------------------------

def handle (env : Env) (member : Member) : MemberRequest → Svc Payload
  | .createInstance body => InstanceController.createInstance env member body
  | .listInstances page size filter sort =>
    InstanceController.listInstances member page size filter sort
  | .getInstance instanceId => InstanceController.getInstance member instanceId
  | .updateStatus instanceId body => InstanceController.updateStatus env member instanceId body
  | .deleteInstance instanceId => InstanceController.deleteInstance member instanceId
  | .diagnoseInstance instanceId => InstanceController.diagnoseInstance env member instanceId
  | .warnings page size => MonitorController.warnings env member page size
  | .errors page size => MonitorController.errors env member page size
  | .longStopped page size => MonitorController.longStopped env member page size
  | .report => MonitorController.report env member
  | .listAlerts page size filter => AlertController.listAlerts member page size filter
  | .resolveAlert alertId => AlertController.resolveAlert env member alertId
  | .createClient body => ClientController.createClient env member body
  | .listClients page size => ClientController.listClients member page size
  | .clientInstances clientId page size =>
    ClientController.clientInstances member clientId page size
  | .clientCost clientId => ClientController.clientCost env member clientId
  | .clientCostForecast clientId => ClientController.clientCostForecast env member clientId
  | .clientSla clientId => ClientController.clientSla env member clientId

def answer (env : Env) (sub : ℤ) : Request → Svc Payload
  | .health => return .health
  | .login email password => AuthController.login env email password
  | .logout => return .noContent
  | .ofMember req => do
    let member ← getCurrentMember sub
    handle env member req

/-- The committed rows, and how many questions the process has asked `Env`. -/
structure World where
  db : Database
  tick : ℕ

def World.session (w : World) : Session := { committed := w.db, view := w.db, tick := w.tick }

def Session.world (s : Session) : World := { db := s.committed, tick := s.tick }

def serve (env : Env) (sub : ℤ) (req : Request) (w : World) : Except ApiError Payload × World :=
  let r := (answer env sub req).run w.session
  (r.1, r.2.world)

theorem getCurrentMember_run {m : Member} {s : Session} (hm : m ∈ s.view.members) :
    (getCurrentMember m.id).run s = (if int64 m.id then .ok m else .error .internal, s) := by
  have hget : (dbGet (·.members) m.id).run s = _ := dbGet_found hm
  rw [getCurrentMember, run_bind_ite hget, Member.row_id]
  split <;> rfl

theorem serve_reply {env : Env} {m : Member} {w : World} (hm : m ∈ w.db.members)
    (req : MemberRequest) :
    (serve env m.id (.ofMember req) w).1 =
      if int64 m.id then ((handle env m req).run w.session).1 else .error .internal := by
  simp only [serve, answer, run_bind, getCurrentMember_run (s := w.session) hm]
  split_ifs <;> rfl

end CloudMonitor
