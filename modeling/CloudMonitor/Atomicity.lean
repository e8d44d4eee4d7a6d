import CloudMonitor.Lib.Faults
import CloudMonitor.Effects
import CloudMonitor.Seed

/-!
# Failed requests write nothing

Every endpoint reads and checks before it writes, and commits last. So a
request that is refused, at the door or by the endpoint, leaves the committed
rows as they were, and a scan whose statement fails leaves none of the alerts
its earlier batches have inserted.
-/

namespace CloudMonitor

open Fallible

-- ---------------------------------------------------------------------------
-- Computations that fail before they commit
-- ---------------------------------------------------------------------------

def Atomic (x : Svc α) : Prop :=
  ∀ s e, (x.run s).1 = .error e → (x.run s).2.committed = s.committed

theorem Reads.atomic {x : Svc α} (hx : Reads x) : Atomic x := fun s _ _ => (hx s).1

theorem atomic_of_ok {x : Svc α} (hx : ∀ s, ∃ a, (x.run s).1 = .ok a) : Atomic x := by
  intro s e he
  obtain ⟨a, ha⟩ := hx s
  cases he.symm.trans ha

theorem Reads.bind_atomic {x : Svc α} {f : α → Svc β} (hx : Reads x) (hf : ∀ a, Atomic (f a)) :
    Atomic (x >>= f) := by
  intro s e he
  have hquiet := hx s
  rw [run_bind] at he ⊢
  cases hr : x.run s with
  | mk r s' =>
    rw [hr] at hquiet he
    cases r with
    | ok a => exact (hf a s' e he).trans hquiet.1
    | error _ => exact hquiet.1

theorem Atomic.map {x : Svc α} (hx : Atomic x) (f : α → β) :
    Atomic (x >>= fun a => Pure.pure (f a)) := by
  intro s e he
  rw [run_map] at he ⊢
  cases hr : (x.run s).1 with
  | ok a =>
    rw [hr] at he
    cases he
  | error _ => exact hx s _ hr

theorem Atomic.ite [Decidable c] {x y : Svc α} (hx : Atomic x) (hy : Atomic y) :
    Atomic (if c then x else y) := by
  split
  · exact hx
  · exact hy

-- ---------------------------------------------------------------------------
-- The services that write
-- ---------------------------------------------------------------------------

theorem createClient_atomic (env : Env) (data : ClientCreate) : Atomic (createClient env data) := by
  refine (reads_dbGet _ _).bind_atomic ?_
  rintro (_ | m)
  · exact (Reads.raise _).atomic
  · exact .ite (Reads.raise _).atomic (atomic_of_ok fun _ => ⟨_, rfl⟩)

theorem createInstance_atomic (env : Env) (data : InstanceCreate) :
    Atomic (createInstance env data) :=
  (reads_dbGet _ _).bind_atomic fun _ =>
    .ite (Reads.raise _).atomic (atomic_of_ok fun _ => ⟨_, rfl⟩)

theorem updateStatus_atomic (env : Env) (instanceId : ℤ) (data : InstanceStatusUpdate) :
    Atomic (updateStatus env instanceId data) := by
  refine (reads_getInstance instanceId).bind_atomic fun i => .ite (Reads.pure i).atomic ?_
  refine (reads_utcnow env).bind_atomic fun now => ?_
  refine .ite ((reads_utcnow env).bind_atomic fun _ => ?_)
    ((Reads.pure now).bind_atomic fun _ => ?_)
  · exact atomic_of_ok fun _ => ⟨_, rfl⟩
  · exact atomic_of_ok fun _ => ⟨_, rfl⟩

theorem deleteInstance_atomic (instanceId : ℤ) : Atomic (deleteInstance instanceId) :=
  (reads_getInstance instanceId).bind_atomic fun _ =>
    .ite (Reads.raise _).atomic (atomic_of_ok fun _ => ⟨_, rfl⟩)

theorem resolveAlert_atomic (env : Env) (alertId : ℤ) : Atomic (resolveAlert env alertId) := by
  refine (reads_dbGet _ _).bind_atomic ?_
  rintro (_ | a)
  · exact (Reads.raise _).atomic
  · exact .ite (Reads.pure a).atomic (atomic_of_ok fun _ => ⟨_, rfl⟩)

theorem scan_atomic (env : Env) (job : ScanJob) (page size : ℕ) :
    Atomic (scan env job page size) :=
  atomic_of_ok fun s => ⟨_, congrArg Prod.fst (scan_run env job page size s)⟩

theorem checkLongStopped_atomic (env : Env) (clientIds : Option Select) (page size : ℕ) :
    Atomic (checkLongStopped env clientIds page size) :=
  (reads_utcnow env).bind_atomic fun _ => scan_atomic env _ page size

-- ---------------------------------------------------------------------------
-- Requests
-- ---------------------------------------------------------------------------

theorem reads_getCurrentMember (sub : ℤ) : Reads (getCurrentMember sub) := by
  refine (reads_dbGet _ _).bind fun r => ?_
  cases r with
  | none => exact .raise _
  | some m => exact .pure m

theorem reads_requireAdmin (m : Member) : Reads (requireAdmin m) := .ite (.raise _) (.pure m)

theorem reads_login (env : Env) (email password : String) :
    Reads (AuthController.login env email password) := by
  refine reads_view.bind fun db => ?_
  cases db.members.rows.find? (fun m => m.email == email) with
  | none => exact .raise _
  | some m => exact .ite (.pure _) (.raise _)

theorem handle_atomic (env : Env) (m : Member) (req : MemberRequest) : Atomic (handle env m req) := by
  cases req with
  | createInstance body =>
    exact (reads_getClient _).bind_atomic fun c => (reads_assertClientAccess m c).bind_atomic
      fun _ => (createInstance_atomic env body).map _
  | listInstances page size filter sort =>
    exact ((reads_listInstances _ _ _ _ _).bind fun _ => .pure _).atomic
  | getInstance instanceId =>
    exact ((InstanceController.reads_ownInstance m instanceId).bind fun _ => .pure _).atomic
  | updateStatus instanceId body =>
    exact (InstanceController.reads_ownInstance m instanceId).bind_atomic fun _ =>
      (updateStatus_atomic env instanceId body).map _
  | deleteInstance instanceId =>
    exact (InstanceController.reads_ownInstance m instanceId).bind_atomic fun _ =>
      (deleteInstance_atomic instanceId).map _
  | diagnoseInstance instanceId =>
    exact ((InstanceController.reads_ownInstance m instanceId).bind fun _ => reads_view.bind
      fun _ => .pure _).atomic
  | warnings page size => exact (scan_atomic env (warningsJob env _) _ _).map _
  | errors page size => exact (scan_atomic env (errorsJob _) _ _).map _
  | longStopped page size => exact (checkLongStopped_atomic env _ _ _).map _
  | report => exact ((reads_buildReport env _).bind fun _ => .pure _).atomic
  | listAlerts page size filter => exact ((reads_paginate _ _ _).bind fun _ => .pure _).atomic
  | resolveAlert alertId =>
    refine (reads_dbGet _ _).bind_atomic ?_
    rintro (_ | a)
    · exact (Reads.raise _).atomic
    refine reads_view.bind_atomic fun db => ?_
    split
    · exact (Reads.raise _).atomic
    · exact (reads_assertClientIdAccess m _).bind_atomic fun _ =>
        (resolveAlert_atomic env alertId).map _
  | createClient body =>
    exact (reads_requireAdmin m).bind_atomic fun _ => (createClient_atomic env body).map _
  | listClients page size => exact ((reads_paginate _ _ _).bind fun _ => .pure _).atomic
  | clientInstances clientId page size =>
    exact ((ClientController.reads_ownClient m clientId).bind fun _ =>
      (reads_listClientInstances _ _ _).bind fun _ => .pure _).atomic
  | clientCost clientId =>
    exact ((ClientController.reads_ownClient m clientId).bind fun _ =>
      (reads_getClientCost env _).bind fun _ => .pure _).atomic
  | clientCostForecast clientId =>
    exact ((ClientController.reads_ownClient m clientId).bind fun _ =>
      (reads_getCostForecast env _).bind fun _ => .pure _).atomic
  | clientSla clientId =>
    exact ((ClientController.reads_ownClient m clientId).bind fun _ =>
      (reads_getSla env _).bind fun _ => .pure _).atomic

-- ---------------------------------------------------------------------------
-- The door
-- ---------------------------------------------------------------------------

/-- A request as it arrives. What the framework, the token check and the rate
limiter make of it is a value or the refusal they answer with: `json` is the
text of the body, `claims` the subject of the verified token, `req` and `body`
the validated parameters, `limit` the two login counters. None of them uses
the database. -/
inductive Arrival
  | health
  | login (json : Except ApiError Unit) (body : Except ApiError (String × String))
      (limit : Except ApiError Unit)
  | logout (claims : Except ApiError Unit)
  | ofMember (json : Except ApiError Unit) (claims : Except ApiError ℤ)
      (req : Except ApiError MemberRequest)

def liftExcept : Except ApiError α → Svc α
  | .ok a => return a
  | .error e => raise e

/-- The dependencies of an endpoint are resolved before its own parameters are
validated. -/
def receive (env : Env) : Arrival → Svc Payload
  | .health => return .health
  | .login json body limit => do
    liftExcept json
    let (email, password) ← liftExcept body
    liftExcept limit
    AuthController.login env email password
  | .logout claims => do
    liftExcept claims
    return .noContent
  | .ofMember json claims req => do
    liftExcept json
    let sub ← liftExcept claims
    let member ← getCurrentMember sub
    handle env member (← liftExcept req)

def serveArrival (env : Env) (arrival : Arrival) (w : World) : Except ApiError Payload × World :=
  let r := (receive env arrival).run w.session
  (r.1, r.2.world)

theorem serveArrival_serve (env : Env) (sub : ℤ) (req : MemberRequest) (w : World) :
    serveArrival env (.ofMember (.ok ()) (.ok sub) (.ok req)) w = serve env sub (.ofMember req) w :=
  rfl

theorem reads_liftExcept (x : Except ApiError α) : Reads (liftExcept x) := by
  cases x with
  | ok a => exact .pure a
  | error e => exact .raise e

theorem receive_atomic (env : Env) (arrival : Arrival) : Atomic (receive env arrival) := by
  cases arrival with
  | health => exact (Reads.pure _).atomic
  | login json body limit =>
    exact ((reads_liftExcept json).bind fun _ => (reads_liftExcept body).bind fun _ =>
      (reads_liftExcept limit).bind fun _ => reads_login env _ _).atomic
  | logout claims => exact ((reads_liftExcept claims).bind fun _ => .pure _).atomic
  | ofMember json claims req =>
    exact (reads_liftExcept json).bind_atomic fun _ =>
      (reads_liftExcept claims).bind_atomic fun sub =>
        (reads_getCurrentMember sub).bind_atomic fun m =>
          (reads_liftExcept req).bind_atomic fun req => handle_atomic env m req

-- ---------------------------------------------------------------------------
-- Scans whose statements may fail
-- ---------------------------------------------------------------------------

abbrev Tried : Type → Type := Fallible (Counted Session) ApiError

/-- Each row of a batch's `executemany` may fail on its own. -/
def triedRecordAlerts (fails : ℕ → Bool) (env : Env) (job : ScanJob) (instances : List Instance) :
    Tried Bool := do
  if instances.isEmpty then
    return false
  else
    let existing ← statement fails .internal (do
      return instancesWithUnresolvedAlert (← view).alerts (instances.map Instance.id) job.alertType)
    let new := newAlerts job existing instances
    if new.isEmpty then
      return false
    else
      each (fun a => statement fails .internal (insertAlert env a)) new
      return true

def triedScanLoop (fails : ℕ → Bool) (env : Env) (job : ScanJob) (page size : ℕ) :
    ℕ → Walk → Tried Walk
  | 0, v => return v
  | fuel + 1, v => do
    let batch ← statement fails .internal (do return nextBatch env job v.lastId (← view))
    if batch.isEmpty then
      return v
    else
      let recorded ← triedRecordAlerts fails env job batch
      let v := v.next page size batch recorded
      if batch.length < env.idBatchSize then return v
      else triedScanLoop fails env job page size fuel v

def triedScan (fails : ℕ → Bool) (env : Env) (job : ScanJob) (page size : ℕ) :
    Tried (Page Instance) := do
  let fuel ← uncounted (do return (← view).instances.rows.length + 1)
  let v ← triedScanLoop fails env job page size fuel {}
  uncounted (do
    commitIfRecorded v.recorded
    return { items := v.items, total := v.total, totalPages := (v.total + size - 1) / size })

def triedCheckLongStopped (fails : ℕ → Bool) (env : Env) (clientIds : Option Select)
    (page size : ℕ) : Tried (Page Instance) := do
  let now ← uncounted (utcnow env)
  triedScan fails env (longStoppedJob env clientIds now) page size

/-- A monitoring request with a caller, with the statement that loads them. -/
def triedAnswer (fails : ℕ → Bool) (env : Env) (sub : ℤ) (alertType : AlertType) (page : PageParam)
    (size : SizeParam) : Tried Payload := do
  let member ← statement fails .internal (getCurrentMember sub)
  let clientIds := accessibleClientIds member
  match alertType with
  | .cpuHigh =>
    let p ← triedScan fails env (warningsJob env clientIds) page.val size.val
    return .instances (pageResponse p page size)
  | .errorDetected =>
    let p ← triedScan fails env (errorsJob clientIds) page.val size.val
    return .instances (pageResponse p page size)
  | .longStopped =>
    let p ← triedCheckLongStopped fails env clientIds page.val size.val
    return .instances (pageResponse p page size)

def monitorRequest (alertType : AlertType) (page : PageParam) (size : SizeParam) : MemberRequest :=
  match alertType with
  | .cpuHigh => .warnings page size
  | .errorDetected => .errors page size
  | .longStopped => .longStopped page size

section
variable {fails : ℕ → Bool}

/-- Up to the commit a scan keeps the committed rows. -/
abbrev Mirrors (fails : ℕ → Bool) (x' : Tried α) (x : Svc α) : Prop :=
  Interrupted fails .internal Session.committed x' x

theorem mirrors_read {g : Database → β} {f' : β → Tried α} {f : β → Svc α}
    (hf : ∀ b, Mirrors fails (f' b) (f b)) :
    Mirrors fails (statement fails .internal (do return g (← view)) >>= f')
      (do f (g (← view))) :=
  (interrupted_statement (do return g (← view))).bind (fun _ => rfl) hf

theorem mirrors_look {g : Database → β} {f' : β → Tried α} {f : β → Svc α}
    (hf : ∀ b, Mirrors fails (f' b) (f b)) :
    Mirrors fails (uncounted (do return g (← view)) >>= f') (do f (g (← view))) :=
  (interrupted_uncounted (do return g (← view))).bind (fun _ => rfl) hf

theorem insertAlert_keeps (env : Env) (a : NewAlert) :
    Keeps Session.committed (insertAlert env a) := fun _ => rfl

theorem recordAlerts_keeps (env : Env) (job : ScanJob) (batch : List Instance) :
    Keeps Session.committed (recordAlerts env job batch) := by
  intro s
  rw [recordAlerts_run]
  rfl

theorem triedRecordAlerts_mirrors (env : Env) (job : ScanJob) (batch : List Instance) :
    Mirrors fails (triedRecordAlerts fails env job batch) (recordAlerts env job batch) := by
  refine .ite (interrupted_pure _) ?_
  refine mirrors_read (f := fun existing =>
    let new := newAlerts job existing batch
    if new.isEmpty then return false else do each (insertAlert env) new; return true) ?_
  intro existing
  refine .ite (interrupted_pure _) ?_
  refine (interrupted_each (fun a => interrupted_statement (insertAlert env a))
    (insertAlert_keeps env) _).bind ?_ fun _ => interrupted_pure _
  intro s
  rw [each_insertAlert_run]
  rfl

theorem scanLoop_keeps (env : Env) (job : ScanJob) (page size fuel : ℕ) (v : Walk) :
    Keeps Session.committed (scanLoop env job page size fuel v) := by
  induction fuel generalizing v with
  | zero => exact fun _ => rfl
  | succ fuel ih =>
    refine Keeps.bind (fun _ => rfl) fun db => .ite (fun _ => rfl) ?_
    exact (recordAlerts_keeps env job _).bind fun _ => .ite (fun _ => rfl) (ih _)

theorem triedScanLoop_mirrors (env : Env) (job : ScanJob) (page size fuel : ℕ) (v : Walk) :
    Mirrors fails (triedScanLoop fails env job page size fuel v)
      (scanLoop env job page size fuel v) := by
  induction fuel generalizing v with
  | zero => exact interrupted_pure v
  | succ fuel ih =>
    refine mirrors_read (f := fun batch =>
      if batch.isEmpty then return v
      else do
        let recorded ← recordAlerts env job batch
        let v := v.next page size batch recorded
        if batch.length < env.idBatchSize then return v
        else scanLoop env job page size fuel v) fun batch => ?_
    refine .ite (interrupted_pure v) ?_
    exact (triedRecordAlerts_mirrors env job batch).bind (recordAlerts_keeps env job batch)
      fun _ => .ite (interrupted_pure _) (ih _)

theorem triedScan_mirrors (env : Env) (job : ScanJob) (page size : ℕ) :
    Mirrors fails (triedScan fails env job page size) (scan env job page size) := by
  refine mirrors_look (f := fun fuel => (do
    let v ← scanLoop env job page size fuel {}
    commitIfRecorded v.recorded
    return { items := v.items, total := v.total, totalPages := (v.total + size - 1) / size } :
      Svc (Page Instance))) fun fuel => ?_
  exact (triedScanLoop_mirrors env job page size fuel {}).bind
    (scanLoop_keeps env job page size fuel {}) fun _ => interrupted_uncounted _

theorem Reads.keeps {x : Svc α} (hx : Reads x) : Keeps Session.committed x := fun s => (hx s).1

theorem triedAnswer_mirrors (env : Env) (sub : ℤ) (alertType : AlertType) (page : PageParam)
    (size : SizeParam) :
    Mirrors fails (triedAnswer fails env sub alertType page size)
      (answer env sub (.ofMember (monitorRequest alertType page size))) := by
  refine (interrupted_statement _).bind (reads_getCurrentMember sub).keeps fun m => ?_
  cases alertType with
  | cpuHigh => exact (triedScan_mirrors env (warningsJob env _) _ _).map _
  | errorDetected => exact (triedScan_mirrors env (errorsJob _) _ _).map _
  | longStopped =>
    refine Interrupted.map ?_ _
    exact (interrupted_uncounted (utcnow env)).bind (reads_utcnow env).keeps fun now =>
      triedScan_mirrors env (longStoppedJob env _ now) _ _

end

-- ---------------------------------------------------------------------------
-- The result
-- ---------------------------------------------------------------------------

def tryMonitor (fails : ℕ → Bool) (env : Env) (sub : ℤ) (alertType : AlertType) (page : PageParam)
    (size : SizeParam) (w : World) : Except ApiError Payload × Counted Session :=
  (triedAnswer fails env sub alertType page size).run { state := w.session }

theorem tryMonitor_failed {fails : ℕ → Bool} {env : Env} {sub : ℤ} {alertType : AlertType}
    {page : PageParam} {size : SizeParam} {w : World} {k : ℕ}
    (hk : k < (tryMonitor fails env sub alertType page size w).2.statements)
    (hfail : fails k = true) :
    (tryMonitor fails env sub alertType page size w).1 = .error .internal ∧
      (tryMonitor fails env sub alertType page size w).2.state.world.db = w.db := by
  have hmirrors : Mirrors fails _ _ := triedAnswer_mirrors env sub alertType page size
  obtain ⟨n, -, ⟨hquiet, hrun⟩ | ⟨-, s, hrun, hdurable⟩⟩ := hmirrors { state := w.session }
  · rw [tryMonitor, hrun] at hk
    rw [hquiet k (Nat.zero_le k) hk] at hfail
    cases hfail
  · rw [tryMonitor, hrun]
    exact ⟨rfl, hdurable⟩

theorem tryMonitor_quiet {fails : ℕ → Bool} {env : Env} {sub : ℤ} {alertType : AlertType}
    {page : PageParam} {size : SizeParam} {w : World}
    (hquiet : ∀ k < (tryMonitor fails env sub alertType page size w).2.statements,
      fails k = false) :
    ((tryMonitor fails env sub alertType page size w).1,
        (tryMonitor fails env sub alertType page size w).2.state.world) =
      serve env sub (.ofMember (monitorRequest alertType page size)) w := by
  have hmirrors : Mirrors fails _ _ := triedAnswer_mirrors env sub alertType page size
  obtain ⟨n, -, ⟨-, hrun⟩ | ⟨⟨k, -, hk, hfail⟩, s, hrun, -⟩⟩ := hmirrors { state := w.session }
  · rw [tryMonitor, hrun]
    rfl
  · rw [tryMonitor, hrun] at hquiet
    rw [hquiet k hk] at hfail
    cases hfail

/-- A request answered with an error leaves the committed rows. So does a
monitoring request one of whose statements fails, and when none fails it is
served as ever: of a scan's alerts all are committed or none. -/
theorem failed_requests_write_nothing (env : Env) :
    (∀ arrival w e, (serveArrival env arrival w).1 = .error e →
      (serveArrival env arrival w).2.db = w.db) ∧
    ∀ fails sub alertType page size w,
      (∀ k < (tryMonitor fails env sub alertType page size w).2.statements, fails k = true →
        (tryMonitor fails env sub alertType page size w).1 = .error .internal ∧
        (tryMonitor fails env sub alertType page size w).2.state.world.db = w.db) ∧
      ((∀ k < (tryMonitor fails env sub alertType page size w).2.statements, fails k = false) →
        ((tryMonitor fails env sub alertType page size w).1,
          (tryMonitor fails env sub alertType page size w).2.state.world) =
            serve env sub (.ofMember (monitorRequest alertType page size)) w) :=
  ⟨fun arrival w e he => receive_atomic env arrival w.session e he,
    fun _ _ _ _ _ _ => ⟨fun _ => tryMonitor_failed, tryMonitor_quiet⟩⟩

/-- A refused deletion, and a scan in batches of one whose second insertion fails. -/
theorem failed_requests_write_nothing_seeded :
    (serveArrival (.every 1) (.ofMember (.ok ()) (.ok 1) (.ok (.deleteInstance 1)))
        (seeded (.every 1))).2.db = (seeded (.every 1)).db ∧
    (tryMonitor (· == 6) { Env.every 1 with idBatchSize := 1, idBatchSize_pos := by decide } 1
        .cpuHigh {} {} (seeded (.every 1))).2.state.world.db = (seeded (.every 1)).db := by
  constructor
  · exact (failed_requests_write_nothing (.every 1)).1 _ _ (.activeInstance 1)
      (by decide +kernel)
  · exact ((failed_requests_write_nothing _).2 _ _ _ _ _ _).1 6 (by decide +kernel) rfl |>.2

end CloudMonitor
