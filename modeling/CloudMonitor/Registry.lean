import CloudMonitor.Access
import CloudMonitor.Atomicity
import CloudMonitor.Costs
import CloudMonitor.Lib.Transcript
import CloudMonitor.StatusUpdate

/-!
# The registry

What the service is for, as its users see it: a register of members, clients
and instances that changes when a write is acknowledged and never otherwise,
and answers that agree with it. The database and its sessions do not occur in
it, and `answers_explained` says that every run of the API is a run of the
register. Alerts are not in the register, since a scan does not tell which it
records; of those an answer shows it says the scope, the filter and the order.
-/

namespace CloudMonitor

open Fallible

structure Registry where
  members : ℤ → Option Member
  clients : ℤ → Option Client
  instances : ℤ → Option Instance

def Database.registry (db : Database) : Registry where
  members := db.members.find?
  clients := db.clients.find?
  instances := db.instances.find?

-- ---------------------------------------------------------------------------
-- What an answer tells
-- ---------------------------------------------------------------------------

inductive Told
  | client (c : Client)
  | inst (i : Instance)
  | deleted (instanceId : ℤ)

def told : Request → Except ApiError Payload → Option Told
  | .ofMember (.createClient _), .ok (.client c) => some (.client c)
  | .ofMember (.createInstance _), .ok (.inst i) => some (.inst i)
  | .ofMember (.updateStatus _ _), .ok (.inst i) => some (.inst i)
  | .ofMember (.deleteInstance instanceId), .ok .noContent => some (.deleted instanceId)
  | _, _ => none

/-- A moment to wait for, the subject of a token, and a request. -/
abbrev Asked : Type := ℕ × ℤ × Request

/-- The moment a request was made at, and what it was answered. -/
abbrev Reply : Type := ℕ × Except ApiError Payload

namespace Registry

def learn (r : Registry) : Told → Registry
  | .client c => { r with clients := Function.update r.clients c.id (some c) }
  | .inst i => { r with instances := Function.update r.instances i.id (some i) }
  | .deleted instanceId => { r with instances := Function.update r.instances instanceId none }

def after (r : Registry) (news : Option Told) : Registry := news.elim r r.learn

def record (r : Registry) (x : Asked × Reply) : Registry := r.after (told x.1.2.2 x.2.2)

-- ---------------------------------------------------------------------------
-- What an answer must agree with
-- ---------------------------------------------------------------------------

def Sees (r : Registry) (m : Member) (clientId : ℤ) : Prop :=
  m.role = .admin ∨ ∃ c, r.clients clientId = some c ∧ c.managerId = m.id

def SeesInstance (r : Registry) (m : Member) (instanceId : ℤ) : Prop :=
  ∃ i, r.instances instanceId = some i ∧ r.Sees m i.clientId

/-- The member a login is for: of those with this email, the first. -/
structure HasEmail (r : Registry) (email : String) (m : Member) : Prop where
  stored : r.members m.id = some m
  same : m.email = email
  first : ∀ m', r.members m'.id = some m' → m'.email = email → m.id ≤ m'.id

end Registry

/-- `all` holds the rows that satisfy `p`, in this order. -/
structure Exactly {α : Type} [Row α] (rows : ℤ → Option α) (p : α → Prop) (before : α → α → Prop)
    (all : List α) : Prop where
  mem : ∀ x, x ∈ all ↔ rows (Row.id x) = some x ∧ p x
  nodup : all.Nodup
  ordered : all.Pairwise before

def byId {α : Type} [Row α] (a b : α) : Prop := Row.id a < Row.id b

/-- `answer` is a page of all the rows that satisfy `p`. -/
def PageFrom {α : Type} [Row α] (rows : ℤ → Option α) (p : α → Prop) (before : α → α → Prop)
    (page : PageParam) (size : SizeParam) (answer : PageResponse α) : Prop :=
  ∃ all, Exactly rows p before all ∧
    answer = pageResponse (pageOf all page.val size.val) page size

inductive Resource
  | inst
  | client
  | manager

def Resource.name : Resource → String
  | .inst => "Instance"
  | .client => "Client"
  | .manager => "Member (manager)"

/-- The row a request names. -/
def MemberRequest.asksFor : MemberRequest → Option (Resource × ℤ)
  | .createInstance body => some (.client, body.clientId)
  | .getInstance instanceId => some (.inst, instanceId)
  | .updateStatus instanceId _ => some (.inst, instanceId)
  | .deleteInstance instanceId => some (.inst, instanceId)
  | .diagnoseInstance instanceId => some (.inst, instanceId)
  | .createClient body => some (.manager, body.managerId)
  | .clientInstances clientId _ _ => some (.client, clientId)
  | .clientCost clientId => some (.client, clientId)
  | .clientCostForecast clientId => some (.client, clientId)
  | .clientSla clientId => some (.client, clientId)
  | _ => none

/-- The integers its statements bind. -/
def MemberRequest.binds : MemberRequest → List ℤ
  | .listInstances page size filter _ => offset size.val page.val :: filter.clientId.toList
  | .listAlerts page size _ => [offset size.val page.val]
  | .listClients page size => [offset size.val page.val]
  | .clientInstances clientId page size => [clientId, offset size.val page.val]
  | .resolveAlert alertId => [alertId]
  | req => req.asksFor.toList.map Prod.snd

namespace Registry

def Lacks (r : Registry) : Resource → ℤ → Prop
  | .inst, id => r.instances id = none
  | .client, id => r.clients id = none
  | .manager, id => r.members id = none

/-- The client a row belongs to. -/
def owner (r : Registry) : Resource → ℤ → Option ℤ
  | .inst, id => (r.instances id).map Instance.clientId
  | .client, id => (r.clients id).map Client.id
  | .manager, _ => none

/-- Why a request is refused, and with which words. -/
inductive Refuses (r : Registry) (m : Member) (req : MemberRequest) : ApiError → Prop
  | missing {what : Resource} {id : ℤ} (hask : req.asksFor = some (what, id))
      (hlacks : r.Lacks what id) : Refuses r m req (.notFound what.name id)
  | outOfScope {what : Resource} {id clientId : ℤ} (hask : req.asksFor = some (what, id))
      (howner : r.owner what id = some clientId) (hsees : ¬r.Sees m clientId) :
      Refuses r m req forbidden
  | adminOnly {body : ClientCreate} (hreq : req = .createClient body) (hrole : m.role ≠ .admin) :
      Refuses r m req (.http 403 "ADMIN role required" [])
  | noManager {body : ClientCreate} {manager : Member} (hreq : req = .createClient body)
      (hmanager : r.members body.managerId = some manager) (hrole : manager.role ≠ .clientManager) :
      Refuses r m req (.validation ("managerId " ++ toString body.managerId ++
        " must belong to a CLIENT_MANAGER (found role " ++ manager.role.value ++ ")"))
  | running {id : ℤ} {i : Instance} (hreq : req = .deleteInstance id)
      (hi : r.instances id = some i) (hsees : r.Sees m i.clientId) (hstatus : i.status = .running) :
      Refuses r m req (.activeInstance id)
  -- the driver raises on an integer it cannot hold
  | unbound {n : ℤ} (hbinds : n ∈ req.binds) (hlarge : ¬int64 n) : Refuses r m req .internal
  -- what is wrong with an alert, the register cannot tell
  | noAlert {alertId : ℤ} (hreq : req = .resolveAlert alertId) :
      Refuses r m req (.http 404 ("Alert " ++ toString alertId ++ " not found") [])
  | strayAlert {alertId : ℤ} (hreq : req = .resolveAlert alertId) : Refuses r m req .internal
  | alertOutOfScope {alertId : ℤ} {i : Instance} (hreq : req = .resolveAlert alertId)
      (hi : r.instances i.id = some i) (hsees : ¬r.Sees m i.clientId) : Refuses r m req forbidden

-- ---------------------------------------------------------------------------
-- Reports
-- ---------------------------------------------------------------------------

def costReport (clientId : ℤ) (c : Client) (all : List Instance) (now : ℤ) : ClientCost where
  clientId := clientId
  clientName := c.clientName
  month := yearMonth now
  instanceCount := all.length
  totalMonthlyCost := roundTo 2 (all.map Instance.monthlyCost).sum
  costByInstance := all.map fun i =>
    { instanceId := i.id
      instanceName := i.instanceName
      instanceType := i.instanceType
      status := i.status
      monthlyCost := i.monthlyCost }

def forecastEntries (env : Env) (running : List Instance) : List (InstanceType × ForecastEntry) :=
  (groups instanceTypes fun t => (running.filter (·.instanceType == t)).length).map
    fun (t, count) =>
      (t, { count := count
            unitPrice := env.settings.unitPrices t
            subtotal := roundTo 2 (count * env.settings.unitPrices t) })

def forecastReport (env : Env) (clientId : ℤ) (c : Client) (running : List Instance) (now : ℤ) :
    CostForecast where
  clientId := clientId
  clientName := c.clientName
  forecastMonth := nextMonth now
  runningInstanceCount := running.length
  forecastCost := roundTo 2 ((forecastEntries env running).map fun e => e.2.subtotal).sum
  breakdown := forecastEntries env running

def slaReport (env : Env) (clientId : ℤ) (c : Client) (all : List Instance) (now : ℤ) :
    SlaReport where
  clientId := clientId
  clientName := c.clientName
  contractPlan := c.contractPlan
  slaThreshold := env.settings.slaThresholds c.contractPlan
  month := yearMonth now
  uptimePercent := meanUptime ((all.filterMap (slaDetail now)).map SlaDetail.uptimePercent)
  isViolation := meanUptime ((all.filterMap (slaDetail now)).map SlaDetail.uptimePercent) <
    env.settings.slaThresholds c.contractPlan
  instanceDetails := all.filterMap (slaDetail now)

def monitorReport (env : Env) (all : List Instance) (unresolved : List Alert) (now : ℤ) :
    MonitorReport where
  generatedAt := now
  instanceCountByStatus := [InstanceStatus.running, .stopped, .error].map fun status =>
    (status, (all.filter (·.status == status)).length)
  warningCount := (all.filter (isWarning env.settings)).length
  totalMonthlyCost := roundTo 2 (all.map Instance.monthlyCost).sum
  unresolvedAlertCount := unresolved.length
  unresolvedAlerts := unresolved.take reportAlertLimit

-- ---------------------------------------------------------------------------
-- Answers
-- ---------------------------------------------------------------------------

/-- What a request of the moment `n` is answered with. -/
def Answers (env : Env) (n : ℕ) (r : Registry) (m : Member) : MemberRequest → Payload → Prop
  | .createInstance body, .inst i =>
    (∃ c, r.clients body.clientId = some c ∧ r.Sees m c.id) ∧ r.instances i.id = none ∧
      i = { id := i.id
            instanceName := body.instanceName
            region := body.region
            instanceType := body.instanceType
            status := body.status
            cpuUsage := body.cpuUsage
            monthlyCost := env.settings.unitPrices body.instanceType
            clientId := body.clientId
            launchedAt := env.clock n
            updatedAt := env.clock (n + 1) }
  | .listInstances page size filter sort, .instances p =>
    PageFrom r.instances (fun i => r.Sees m i.clientId ∧ filter.matches i = true)
      (Before (instanceOrder sort)) page size p
  | .getInstance instanceId, .inst i => r.instances instanceId = some i ∧ r.Sees m i.clientId
  | .updateStatus instanceId body, .inst i =>
    ∃ old, r.instances instanceId = some old ∧ r.Sees m old.clientId ∧
      i = if body.isNoop old then old else body.apply old (updateStamp env n old)
  | .deleteInstance instanceId, .noContent =>
    ∃ old, r.instances instanceId = some old ∧ r.Sees m old.clientId ∧ old.status ≠ .running
  | .diagnoseInstance instanceId, .diagnosis i alerts =>
    r.instances instanceId = some i ∧ r.Sees m i.clientId ∧ alerts.length ≤ 10 ∧
      (∀ a ∈ alerts, a.instanceId = instanceId) ∧
      alerts.Pairwise fun a b => b.detectedAt ≤ a.detectedAt
  | .warnings page size, .instances p =>
    PageFrom r.instances (fun i => (r.Sees m i.clientId ∧ isWarning env.settings i = true) ∧
      0 < i.id) byId page size p
  | .errors page size, .instances p =>
    PageFrom r.instances (fun i => (r.Sees m i.clientId ∧ i.status = .error) ∧ 0 < i.id)
      byId page size p
  | .longStopped page size, .instances p =>
    PageFrom r.instances (fun i => (r.Sees m i.clientId ∧ i.status = .stopped ∧
      i.updatedAt ≤ longStoppedBound env (env.clock n)) ∧ 0 < i.id) byId page size p
  | .report, .report report =>
    ∃ all unresolved, Exactly r.instances (fun i => r.Sees m i.clientId) byId all ∧
      (∀ a ∈ unresolved, a.isResolved = false ∧ r.SeesInstance m a.instanceId) ∧
      unresolved.Pairwise (Before alertOrder) ∧
      report = monitorReport env all unresolved (env.clock n)
  | .listAlerts page size filter, .alerts p =>
    ∃ all, (∀ a ∈ all, filter.matches a = true ∧
        (m.role = .admin ∨ r.SeesInstance m a.instanceId)) ∧
      all.Pairwise (Before alertOrder) ∧ p = pageResponse (pageOf all page.val size.val) page size
  | .resolveAlert alertId, .alert a =>
    a.id = alertId ∧ a.isResolved = true ∧ r.SeesInstance m a.instanceId
  | .createClient body, .client c =>
    m.role = .admin ∧ r.clients c.id = none ∧
      (∃ manager, r.members body.managerId = some manager ∧ manager.role = .clientManager) ∧
      c = { id := c.id
            clientName := body.clientName
            contractPlan := body.contractPlan
            managerId := body.managerId
            createdAt := env.clock n }
  | .listClients page size, .clients p =>
    PageFrom r.clients (fun c => r.Sees m c.id) byId page size p
  | .clientInstances clientId page size, .instances p =>
    (∃ c, r.clients clientId = some c ∧ r.Sees m c.id) ∧
      PageFrom r.instances (fun i => i.clientId = clientId) byId page size p
  | .clientCost clientId, .cost cost =>
    ∃ c all, r.clients clientId = some c ∧ r.Sees m c.id ∧
      Exactly r.instances (fun i => i.clientId = clientId) byId all ∧
      cost = costReport clientId c all (env.clock n)
  | .clientCostForecast clientId, .forecast forecast =>
    ∃ c running, r.clients clientId = some c ∧ r.Sees m c.id ∧
      Exactly r.instances (fun i => i.clientId = clientId ∧ i.status = .running) byId running ∧
      forecast = forecastReport env clientId c running (env.clock n)
  | .clientSla clientId, .sla sla =>
    ∃ c all, r.clients clientId = some c ∧ r.Sees m c.id ∧
      Exactly r.instances (fun i => i.clientId = clientId) byId all ∧
      sla = slaReport env clientId c all (env.clock n)
  | _, _ => False

/-- A login is for the member with this email and decided by the password
alone, and its refusal leaves open which of the two was wrong. -/
def LogsIn (env : Env) (r : Registry) (email password : String) : Except ApiError Payload → Prop
  | .ok payload => ∃ m, r.HasEmail email m ∧ env.verifyPassword password m.password = true ∧
      payload = .token m.id m.email m.role m.name
  | .error e => e = .http 401 "Invalid email or password" [] ∧
      ∀ m, r.HasEmail email m → env.verifyPassword password m.password = false

/-- An answer is made no earlier than asked, and agrees with the register. -/
def Explains (env : Env) (r : Registry) (x : Asked × Reply) : Prop :=
  x.1.1 ≤ x.2.1 ∧ match x.1.2.2, x.2.2 with
    | .health, reply => reply = .ok .health
    | .logout, reply => reply = .ok .noContent
    | .login email password, reply => r.LogsIn env email password reply
    | .ofMember req, .ok payload =>
      ∃ m, r.members x.1.2.1 = some m ∧ r.Answers env x.2.1 m req payload
    | .ofMember req, .error e =>
      (e = .internal ∧ ¬int64 x.1.2.1) ∨
      (e = .http 401 "Member no longer exists" [] ∧ r.members x.1.2.1 = none) ∨
      ∃ m, r.members x.1.2.1 = some m ∧ r.Refuses m req e

end Registry

-- ---------------------------------------------------------------------------
-- Rows
-- ---------------------------------------------------------------------------

section
variable {db : Database} {m : Member} {c : ℤ}

end

-- ---------------------------------------------------------------------------
-- Refusals
-- ---------------------------------------------------------------------------

/-- A refused request leaves the session as it was. -/
def Refused (s : Session) (m : Member) (req : MemberRequest) (e : ApiError) (s' : Session) : Prop :=
  s' = s ∧ s.view.registry.Refuses m req e

section
variable {s : Session} {m : Member} {req : MemberRequest} {n : ℤ}

end

-- ---------------------------------------------------------------------------
-- Runs
-- ---------------------------------------------------------------------------

/-- The clock does not go back. -/
def ask (env : Env) (w : World) (x : Asked) : Reply × World :=
  let n := max w.tick x.1
  let r := serve env x.2.1 x.2.2 { w with tick := n }
  ((n, r.1), r.2)

theorem Registry.HasEmail.unique {r : Registry} {email : String} {m m' : Member}
    (h : r.HasEmail email m) (h' : r.HasEmail email m') : m = m' := by
  have hid : m.id = m'.id := le_antisymm (h.first m' h'.stored h'.same) (h'.first m h.stored h.same)
  exact Option.some.inj (h.stored.symm.trans (hid ▸ h'.stored))

end CloudMonitor
