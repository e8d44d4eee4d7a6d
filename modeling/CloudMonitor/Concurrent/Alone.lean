import CloudMonitor.Access
import CloudMonitor.Concurrent.Requests

/-!
# A writing request on its own

Without another session in between, a request in flight is the endpoint: it
answers the same and leaves the same committed rows.
-/

namespace CloudMonitor

open Fallible Program

namespace LiveDatabase

variable {ι : Type}

def session (s : LiveDatabase ι) : Session where
  committed := s.db
  view := s.db
  tick := s.tick

/-- Nothing is uncommitted. -/
structure AtRest (s : LiveDatabase ι) (t : Session) : Prop where
  session : t = s.session
  owner : s.owner = fun _ => none

/-- The rows `t` has not committed are alerts, and `i` owns them. -/
structure MidScan (i : ι) (s : LiveDatabase ι) (t : Session) : Prop where
  view : s.db = t.view
  tick : s.tick = t.tick
  committed : ∀ id ∈ t.committed.alerts.ids, id ∈ t.view.alerts.ids
  owner : ∀ id, s.owner id =
    if id ∈ t.view.alerts.ids ∧ id ∉ t.committed.alerts.ids then some i else none

section
variable {s s' : LiveDatabase ι} {t : Session} {i : ι}

theorem atRest_session (h : s.owner = fun _ => none) : AtRest s s.session := ⟨rfl, h⟩

theorem AtRest.midScan (h : AtRest s t) : MidScan i s t := by
  obtain rfl := h.session
  refine ⟨rfl, rfl, fun _ h => h, fun id => ?_⟩
  rw [h.owner, if_neg fun hid => hid.2 hid.1]

theorem MidScan.atRest (h : MidScan i s t) (hcommitted : t.committed = t.view) : AtRest s t where
  session := by
    cases t
    simp only [session, Session.mk.injEq]
    exact ⟨hcommitted.trans h.view.symm, h.view.symm, h.tick.symm⟩
  owner := by
    funext id
    rw [h.owner, hcommitted, if_neg fun hid => hid.2 hid.1]

theorem AtRest.committed_eq (h : AtRest s t) : s.committed = t.committed := by
  have halerts : s.alerts.table.delete (fun a => (s.owner a.id).isSome) = s.alerts.table := by
    refine Table.ext_mem fun a => Table.mem_delete.trans (and_iff_left ?_)
    rw [h.owner]
    rfl
  rw [h.session, committed, halerts]
  rfl

theorem MidScan.visible [DecidableEq ι] (h : MidScan i s t) : s.visible i = t.view.alerts := by
  rw [← h.view]
  refine Table.ext_mem fun a => Table.mem_delete.trans (and_iff_left ?_)
  rw [h.owner]
  split <;> simp

theorem visible_of_atRest [DecidableEq ι] (h : s.owner = fun _ => none) (i : ι) :
    s.visible i = s.alerts.table :=
  (atRest_session h).midScan.visible

end

end LiveDatabase

open LiveDatabase

-- ---------------------------------------------------------------------------
-- Lookups and checks
-- ---------------------------------------------------------------------------

section
variable {ι : Type} {s : LiveDatabase ι}

theorem Statement.bindParam_run (n : ℤ) (s : LiveDatabase ι) :
    (Statement.bindParam n).run s = if int64 n then (.ok (), s) else (.error .internal, s) :=
  run_ite _ _ _

theorem Statement.selectMember_run (id : ℤ) (s : LiveDatabase ι) :
    (Statement.selectMember id).run s =
      if int64 id then (.ok (s.members.find? id), s) else (.error .internal, s) := by
  rw [Statement.selectMember, run_bind_ite (bindParam_run id s)]
  rfl

theorem Statement.selectClient_run (id : ℤ) (s : LiveDatabase ι) :
    (Statement.selectClient id).run s =
      if int64 id then (.ok (s.clients.find? id), s) else (.error .internal, s) := by
  rw [Statement.selectClient, run_bind_ite (bindParam_run id s)]
  rfl

/-- A row looked up by its id, on both sides. -/
theorem lookup_alike {α β : Type} [Row α] {table : Database → Table α} {id : ℤ}
    {x : Statement ι (Option α)} {f : Option α → Statement ι β} {g : Option α → Svc β}
    {s' : LiveDatabase ι} (h : s.owner = fun _ => none)
    (hx : x.run s = if int64 id then (.ok ((table s.db).find? id), s') else (.error .internal, s))
    (hf : int64 id → Alike AtRest (f ((table s.db).find? id)) (g ((table s.db).find? id)) s'
      s.session) :
    Alike AtRest (x >>= f) (dbGet table id >>= g) s s.session :=
  Alike.bind_ite hx (dbGet_run table id s.session) (fun _ => atRest_session h) hf

theorem Statement.refresh_run {α : Type} [Row α] {table : LiveDatabase ι → Table α} {id : ℤ} {r : α}
    (hfind : (table s).find? id = some r) : (Statement.refresh table id).run s = (.ok r, s) := by
  simp only [Statement.refresh, run_bind, run_get, hfind, run_pure]

theorem Live.assertClientAccess_run {m : Member} {c : Client} (hc : c ∈ s.clients) :
    (Live.assertClientAccess m c).alone.run s =
      if inScope (accessibleClientIds m) s.db c.id then (.ok (), s) else (.error forbidden, s) := by
  have hscope : inScope (accessibleClientIds m) s.db c.id = true ↔
      m.role = .admin ∨ c.managerId = m.id := inScope_client hc
  simp only [hscope, Live.assertClientAccess, alone_ite, alone_pure, alone_fail, run_ite, run_pure,
    run_raise]
  by_cases hrole : m.role = .admin
  · simp [hrole]
  · by_cases hman : c.managerId = m.id <;> simp [hrole, hman]

theorem Live.assertClientIdAccess_run (m : Member) (clientId : ℤ) (s : LiveDatabase ι) :
    (Live.assertClientIdAccess m clientId).alone.run s =
      if inScope (accessibleClientIds m) s.db clientId then (.ok (), s)
      else (.error forbidden, s) := by
  unfold Live.assertClientIdAccess inScope
  cases accessibleClientIds m with
  | none => rfl
  | some scope =>
    have hexists : (Statement.selectExists scope clientId).run s =
        (.ok (decide (clientId ∈ scope s.clients)), s) := rfl
    simp only [alone_bind, alone_atomic, alone_ite, alone_pure, alone_fail, run_bind, hexists,
      run_ite]
    rfl

end

-- ---------------------------------------------------------------------------
-- Scans
-- ---------------------------------------------------------------------------

theorem mem_ids_addAlerts (env : Env) (tick : ℕ) (as : List NewAlert) {t : Table Alert} {id : ℤ}
    (h : id ∈ t.ids) : id ∈ (addAlerts env tick as t).ids := by
  obtain ⟨a, ha, hid⟩ := Table.mem_ids.mp h
  exact Table.mem_ids.mpr ⟨a, mem_addAlerts_of_mem ha, hid⟩

section
variable {ι : Type} [DecidableEq ι] {i : ι} {s : LiveDatabase ι} {t : Session}

omit [DecidableEq ι] in
theorem LiveDatabase.MidScan.insertAlerts {env : Env} (h : MidScan i s t) (new : List NewAlert) :
    MidScan i ((Statement.insertAlerts env i new).run s).2 (t.addAlerts env new) where
  view := by
    rw [Session.addAlerts, ← h.view, ← h.tick]
    rfl
  tick := congrArg (· + new.length) h.tick
  committed id hid := mem_ids_addAlerts env t.tick new (h.committed id hid)
  owner id := by
    have hcommitted := h.committed id
    have hview : s.alerts.table = t.view.alerts := congrArg Database.alerts h.view
    change (if id ∈ (addAlerts env s.tick new s.alerts.table).ids ∧ id ∉ s.alerts.table.ids
      then some i else s.owner id) = _
    rw [h.owner, hview, h.tick]
    change _ = if id ∈ (addAlerts env t.tick new t.view.alerts).ids ∧ id ∉ t.committed.alerts.ids
      then some i else none
    by_cases hold : id ∈ t.view.alerts.ids
    · have hkept := mem_ids_addAlerts env t.tick new hold
      simp only [hold, not_true, and_false, if_false, true_and, hkept]
    · have hnew : id ∉ t.committed.alerts.ids := fun hid => hold (hcommitted hid)
      simp only [hold, not_false_iff, and_true, if_false, hnew]

theorem LiveDatabase.MidScan.recordAlerts (h : MidScan i s t) (env : Env) (job : ScanJob)
    (batch : List Instance) :
    ∃ s', (Live.recordAlerts env i job batch).alone.run s =
        (.ok (!(missingAlerts job t.view.alerts batch).isEmpty), s') ∧
      MidScan i s' (t.addAlerts env (missingAlerts job t.view.alerts batch)) := by
  have hexisting : (Statement.selectUnresolved i (batch.map Instance.id) job.alertType).run s =
      (.ok (instancesWithUnresolvedAlert t.view.alerts (batch.map Instance.id) job.alertType),
        s) := by
    rw [← h.visible]
    rfl
  simp only [Live.recordAlerts, alone_bind, alone_atomic, alone_ite, alone_pure, run_bind,
    hexisting, newAlerts_probe, run_ite]
  cases hmissing : missingAlerts job t.view.alerts batch with
  | nil => exact ⟨s, rfl, h⟩
  | cons a as => exact ⟨_, rfl, h.insertAlerts (a :: as)⟩

theorem LiveDatabase.MidScan.commit (h : MidScan i s t) :
    AtRest ((Statement.commit i).run s).2 { t with committed := t.view } where
  session := by
    change _ = Session.mk s.db s.db s.tick
    rw [h.view, h.tick]
  owner := by
    funext id
    change (if s.owner id = some i then none else s.owner id) = none
    rw [h.owner]
    split <;> simp

/-- The two loops turn by turn. A full batch leaves strictly fewer matches, so
neither runs out of turns. -/
theorem scanLoop_alike (env : Env) (job : ScanJob) (page size turns fuel : ℕ) (v : Walk)
    (h : MidScan i s t) (hturns : (matchesFrom job t.view v.lastId).length < turns)
    (hfuel : (matchesFrom job t.view v.lastId).length < fuel) :
    Alike (MidScan i) (Live.scanLoop env i job page size turns v).alone
      (scanLoop env job page size fuel v) s t := by
  induction turns generalizing fuel v s t with
  | zero => omega
  | succ turns ih =>
    cases fuel with
    | zero => omega
    | succ fuel =>
      simp only [Live.scanLoop, scanLoop, alone_bind, alone_atomic, alone_ite, alone_pure]
      have hbatch : (Statement.selectBatch env i job v.lastId).run s =
          (.ok (nextBatch env job v.lastId t.view), { s with
            instances := s.instances.see i
              ((nextBatch env job v.lastId t.view).map Instance.id) }) := by
        rw [← h.view]
        rfl
      have hsee : MidScan i { s with
          instances := s.instances.see i
            ((nextBatch env job v.lastId t.view).map Instance.id) } t :=
        ⟨h.view, h.tick, h.committed, h.owner⟩
      refine Alike.left hbatch (Alike.right (view_run t) ?_)
      refine Alike.ite (fun _ => Alike.pure hsee v) fun hne => ?_
      obtain ⟨s', hrecord, hs'⟩ := hsee.recordAlerts env job (nextBatch env job v.lastId t.view)
      refine Alike.left hrecord (Alike.right (recordAlerts_run env job _ t) ?_)
      refine Alike.ite (fun _ => Alike.pure hs' _) fun hfull => ?_
      have hpos := env.idBatchSize_pos
      have hrest := matchesFrom_nextBatch env job page size v t.view
        (!(missingAlerts job t.view.alerts (nextBatch env job v.lastId t.view)).isEmpty)
        (by simpa using hne)
      rw [nextBatch_eq, List.length_take] at hfull
      have hfewer := congrArg List.length hrest
      rw [List.length_drop] at hfewer
      refine ih fuel _ hs' ?_ ?_
      · rw [matchesFrom_alerts]
        omega
      · rw [matchesFrom_alerts]
        omega

theorem scan_alike (env : Env) (job : ScanJob) (page : PageParam) (size : SizeParam) {turns : ℕ}
    (h : AtRest s t) (hturns : t.view.instances.rows.length < turns) :
    Alike AtRest (Live.scan env i turns job page size).alone
      (scan env job page.val size.val >>= fun p => pure (.instances (pageResponse p page size)))
      s t := by
  have hlen : (matchesFrom job t.view ({} : Walk).lastId).length ≤ t.view.instances.rows.length :=
    List.length_filter_le _ _
  obtain ⟨lastId, hloop⟩ := scanLoop_run env job page.val size.val
    (t.view.instances.rows.length + 1) {} t (Nat.lt_succ_of_le hlen)
  obtain ⟨hreply, hstate⟩ := scanLoop_alike env job page.val size.val turns
    (t.view.instances.rows.length + 1) {} h.midScan (lt_of_le_of_lt hlen hturns)
    (Nat.lt_succ_of_le hlen)
  cases hlive : (Live.scanLoop env i job page.val size.val turns {}).alone.run s with
  | mk r s' =>
    rw [hlive, hloop] at hreply hstate
    obtain rfl := hreply
    simp only [Live.scan, scan, alone_bind, alone_pure, Fallible.bind_assoc]
    refine Alike.left hlive (Alike.right (view_run t) (Alike.right hloop ?_))
    refine Alike.right (commitIfRecorded_run _ _) ?_
    cases hmissing :
      missingAlerts job t.view.alerts (matchesFrom job t.view ({} : Walk).lastId) with
    | nil =>
      rw [hmissing] at hstate
      exact Alike.pure (hstate.atRest (by rw [h.session]; rfl)) _
    | cons a as =>
      rw [hmissing] at hstate
      exact ⟨rfl, hstate.commit⟩

end

-- ---------------------------------------------------------------------------
-- Creating
-- ---------------------------------------------------------------------------

section
variable {ι : Type} {s : LiveDatabase ι}

theorem createClient_alike (env : Env) (h : s.owner = fun _ => none) (m : Member)
    (body : ClientCreate) :
    Alike AtRest (Live.createClient env m body).alone (ClientController.createClient env m body)
      s s.session := by
  simp only [Live.createClient, ClientController.createClient, requireAdmin, createClient,
    alone_bind, alone_atomic, alone_ite, alone_fail, Fallible.bind_assoc]
  by_cases hrole : m.role = .admin
  · rw [if_neg (not_not.mpr hrole), if_neg (not_not.mpr hrole), pure_bind]
    refine lookup_alike h (Statement.selectMember_run _ s) fun _ => ?_
    cases s.db.members.find? body.managerId with
    | none => exact Alike.raise (atRest_session h) _
    | some manager =>
      simp only [alone_bind, alone_atomic, alone_ite, alone_fail, alone_pure]
      by_cases hmanager : manager.role = .clientManager
      · rw [if_neg (not_not.mpr hmanager), if_neg (not_not.mpr hmanager)]
        simp only [Fallible.bind_assoc]
        let client := body.row (env.newId s.tick s.clients.ids) (env.clock s.tick)
        refine Alike.left rfl (Alike.left (Statement.refresh_run (r := client) ?_) ?_)
        · exact (congrFun Table.find?_insertNew _).trans (Function.update_self ..)
        · exact Alike.right rfl (Alike.right rfl (Alike.right rfl ⟨rfl, rfl, h⟩))
      · rw [if_pos hmanager, if_pos hmanager]
        exact Alike.raise (atRest_session h) _
  · rw [if_pos hrole, if_pos hrole]
    exact Alike.raise (atRest_session h) _

variable [DecidableEq ι] {i : ι}

theorem createInstance_alike (env : Env) (h : s.owner = fun _ => none) (m : Member)
    (body : InstanceCreate) :
    Alike AtRest (Live.createInstance env i m body).alone
      (InstanceController.createInstance env m body) s s.session := by
  simp only [Live.createInstance, InstanceController.createInstance, getClient, createInstance,
    alone_bind, alone_atomic, Fallible.bind_assoc]
  refine lookup_alike h (Statement.selectClient_run _ s) fun hid => ?_
  cases hfind : s.db.clients.find? body.clientId with
  | none => exact Alike.raise (atRest_session h) _
  | some client =>
    obtain ⟨hclient, -⟩ := Table.find?_eq_some.mp hfind
    have hget : (dbGet (·.clients) body.clientId).run s.session =
        (.ok (some client), s.session) := by
      rw [dbGet_run, if_pos hid, ← hfind]
      rfl
    simp only [alone_bind, alone_atomic, alone_pure, Fallible.pure_bind]
    refine Alike.bind_ite (Live.assertClientAccess_run hclient)
      (assertClientAccess_run (s := s.session) hclient) (fun _ => atRest_session h) fun _ => ?_
    refine Alike.right hget ?_
    simp only [Option.isNone_some, Bool.false_eq_true, if_false, Fallible.bind_assoc,
      Fallible.pure_bind]
    let inst := body.row env (env.clock s.tick) (env.newId (s.tick + 1) s.instances.table.ids)
      (env.clock (s.tick + 1))
    refine Alike.left rfl (Alike.left rfl (Alike.left (Statement.refresh_run (r := inst) ?_) ?_))
    · exact (congrFun Table.find?_insertNew _).trans (Function.update_self ..)
    · exact Alike.right rfl (Alike.right rfl (Alike.right rfl ⟨rfl, rfl, h⟩))

-- ---------------------------------------------------------------------------
-- One instance
-- ---------------------------------------------------------------------------

theorem Statement.selectInstance_run (i : ι) (id : ℤ) (s : LiveDatabase ι) :
    (Statement.selectInstance i id).run s =
      if int64 id then
        (.ok (s.instances.table.find? id), { s with instances := s.instances.see i [id] })
      else (.error .internal, s) := by
  rw [Statement.selectInstance, run_bind_ite (bindParam_run id s)]
  rfl

theorem ownInstance_alike {α : Type} (h : s.owner = fun _ => none) (m : Member) (instanceId : ℤ)
    {f : Instance → Statement ι α} {g : Instance → Svc α}
    (hf : ∀ r ∈ s.instances.table, r.id = instanceId → int64 r.id →
      Alike AtRest (f r) (g r) { s with instances := s.instances.see i [instanceId] } s.session) :
    Alike AtRest ((Live.ownInstance i m instanceId).alone >>= f)
      (InstanceController.ownInstance m instanceId >>= g) s s.session := by
  simp only [Live.ownInstance, InstanceController.ownInstance, getInstance, alone_bind,
    alone_atomic, Fallible.bind_assoc]
  refine lookup_alike h (Statement.selectInstance_run i _ s) fun hid => ?_
  let s' : LiveDatabase ι := { s with instances := s.instances.see i [instanceId] }
  cases hfind : s.db.instances.find? instanceId with
  | none => exact ⟨rfl, rfl, h⟩
  | some r =>
    obtain ⟨hr, hrid⟩ := Table.find?_eq_some.mp hfind
    simp only [alone_bind, alone_pure, Fallible.bind_assoc, Fallible.pure_bind]
    refine Alike.bind_ite (Live.assertClientIdAccess_run m r.clientId s')
      (assertClientIdAccess_run m r.clientId s'.session) (fun _ => atRest_session h) fun _ => ?_
    exact hf r hr hrid (by rwa [show r.id = instanceId from hrid])

omit [DecidableEq ι] in
theorem Statement.updateInstance_run (env : Env) (copy : Instance) (body : InstanceStatusUpdate)
    (now : ℤ) (hfind : s.instances.table.find? copy.id = some copy) :
    (Statement.updateInstance env copy body now).run s = (.ok (), { s with
      instances := s.instances.put (s.instances.table.update
        (body.apply copy (if now = copy.updatedAt then env.clock s.tick else now)))
      tick := if now = copy.updatedAt then s.tick + 1 else s.tick }) := by
  simp only [Statement.updateInstance, run_bind, run_get, hfind, run_modify, changed_getD]
  rfl

theorem updateStatus_alike (env : Env) (h : s.owner = fun _ => none) (m : Member) (instanceId : ℤ)
    (body : InstanceStatusUpdate) :
    Alike AtRest (Live.updateStatus env i m instanceId body).alone
      (InstanceController.updateStatus env m instanceId body) s s.session := by
  simp only [Live.updateStatus, InstanceController.updateStatus, alone_bind, alone_ite, alone_pure,
    alone_atomic]
  refine ownInstance_alike h m instanceId fun r hr hid hint => ?_
  subst hid
  have hrun : (updateStatus env r.id body).run s.session = _ :=
    updateStatus_run env body (s := s.session) hr hint
  by_cases hnoop : body.isNoop r
  · rw [if_pos hnoop] at hrun ⊢
    exact Alike.right hrun ⟨rfl, rfl, h⟩
  · rw [if_neg hnoop] at hrun ⊢
    have hfind : s.instances.table.find? r.id = some r := Table.find?_eq_some.mpr ⟨hr, rfl⟩
    let updated := body.apply r (updateStamp env s.tick r)
    refine Alike.left rfl (Alike.left (Statement.updateInstance_run env r body _ hfind)
      (Alike.left (Statement.refresh_run (r := updated) ?_) (Alike.right hrun ⟨rfl, ?_, h⟩)))
    · exact (congrFun (Table.find?_update (r := updated) (Table.mem_ids.mpr ⟨r, hr, rfl⟩)) _).trans
        (Function.update_self ..)
    · rfl

theorem deleteInstance_alike (h : s.owner = fun _ => none) (m : Member) (instanceId : ℤ) :
    Alike AtRest (Live.deleteInstance i m instanceId).alone
      (InstanceController.deleteInstance m instanceId) s s.session := by
  simp only [Live.deleteInstance, InstanceController.deleteInstance, alone_bind, alone_ite,
    alone_pure, alone_fail, alone_atomic]
  refine ownInstance_alike h m instanceId fun r hr hid hint => ?_
  subst hid
  have hrun : (deleteInstance r.id).run s.session = _ :=
    deleteInstance_run (s := s.session) hr hint
  by_cases hstatus : r.status = .running
  · rw [if_pos hstatus] at hrun ⊢
    exact ⟨by rw [run_bind, hrun]; rfl, by rw [run_bind, hrun]; exact ⟨rfl, h⟩⟩
  · rw [if_neg hstatus] at hrun ⊢
    refine Alike.left rfl (Alike.left rfl (Alike.right hrun ⟨rfl, ?_, h⟩))
    have halerts : s.alerts.table.delete (fun a =>
        (((s.visible i).rows.filter (fun a => a.instanceId == r.id)).map Alert.id).contains a.id &&
          (s.owner a.id).isNone) = s.alerts.table.delete (·.instanceId == r.id) := by
      rw [visible_of_atRest h, h]
      simp only [Option.isNone_none, Bool.and_true]
      exact Table.delete_loaded s.alerts.table (·.instanceId == r.id)
    exact congrArg (fun alerts =>
      let db := { s.db with instances := s.instances.table.delete (·.id == r.id), alerts := alerts }
      Session.mk db db s.tick) halerts.symm

-- ---------------------------------------------------------------------------
-- One alert
-- ---------------------------------------------------------------------------

theorem Statement.updateAlert_run {copy : Alert} (h : s.owner = fun _ => none)
    (hfind : s.alerts.table.find? copy.id = some copy) (now : ℤ) :
    (Statement.updateAlert i copy now).run s = (.ok (), { s with
      alerts := s.alerts.put (s.alerts.table.update (copy.resolve now)) }) := by
  simp only [Statement.updateAlert, run_bind, run_get, visible_of_atRest h, hfind, run_modify,
    AlertWrite.exec, changed_getD]
  rfl

theorem resolveAlert_alike (env : Env) (h : s.owner = fun _ => none) (m : Member) (alertId : ℤ) :
    Alike AtRest (Live.resolveAlert env i m alertId).alone
      (AlertController.resolveAlert env m alertId) s s.session := by
  simp only [Live.resolveAlert, AlertController.resolveAlert, resolveAlert, alone_bind,
    alone_atomic]
  by_cases hid : int64 alertId
  · have hget : (dbGet (·.alerts) alertId).run s.session =
        (.ok (s.alerts.table.find? alertId), s.session) := by
      rw [dbGet_run, if_pos hid]
      rfl
    refine Alike.right hget ?_
    cases hfind : s.alerts.table.find? alertId with
    | none =>
      have hselect : (Statement.selectAlert i alertId).run s = (.ok none, s) := by
        rw [Statement.selectAlert, run_bind_ite (Statement.bindParam_run alertId s), if_pos hid]
        simp only [run_bind, run_get, visible_of_atRest h, hfind, run_pure]
      exact Alike.left hselect (Alike.raise (atRest_session h) _)
    | some a =>
      let s' : LiveDatabase ι := { s with
        alerts := s.alerts.see i [a.id]
        instances := s.instances.see i [a.instanceId] }
      have hselect : (Statement.selectAlert i alertId).run s =
          (.ok (some (a, s.instances.table.find? a.instanceId)), s') := by
        rw [Statement.selectAlert, run_bind_ite (Statement.bindParam_run alertId s), if_pos hid]
        simp only [run_bind, run_get, visible_of_atRest h, hfind, run_modify, run_pure]
        rfl
      refine Alike.left hselect (Alike.right (view_run s.session) ?_)
      have hview : s.session.view.instances.find? a.instanceId =
        s.instances.table.find? a.instanceId := rfl
      rw [hview]
      cases s.instances.table.find? a.instanceId with
      | none => exact ⟨rfl, rfl, h⟩
      | some r =>
        simp only [alone_bind, alone_atomic, alone_ite, alone_pure, Fallible.bind_assoc]
        refine Alike.bind_ite (Live.assertClientIdAccess_run m r.clientId s')
          (assertClientIdAccess_run m r.clientId s'.session) (fun _ => ⟨rfl, h⟩) fun _ => ?_
        have hfound : (dbGet (·.alerts) alertId).run s.session = (.ok (some a), s.session) := by
          rw [hget, hfind]
        refine Alike.right hfound ?_
        by_cases hresolved : a.isResolved = true
        · rw [if_pos hresolved]
          simp only [if_pos hresolved]
          exact ⟨rfl, rfl, h⟩
        · rw [if_neg hresolved]
          simp only [if_neg hresolved, Fallible.bind_assoc]
          obtain ⟨ha, haid⟩ := Table.find?_eq_some.mp hfind
          have hstored : s.alerts.table.find? a.id = some a := Table.find?_eq_some.mpr ⟨ha, rfl⟩
          let s₁ : LiveDatabase ι := { s' with tick := s.tick + 1 }
          let s₂ : LiveDatabase ι := { s₁ with
            alerts := s₁.alerts.put (s.alerts.table.update (a.resolve (env.clock s.tick))) }
          have hvisible : s₂.visible i = s₂.alerts.table :=
            visible_of_atRest (s := s₂) h i
          refine Alike.left rfl (Alike.left (Statement.updateAlert_run (s := s₁) h hstored _)
            (Alike.left (Statement.refresh_run (r := a.resolve (env.clock s.tick)) ?_) ?_))
          · refine (congrArg (·.find? a.id) hvisible).trans ?_
            exact (congrFun (Table.find?_update (r := a.resolve (env.clock s.tick))
              (Table.mem_ids.mpr ⟨a, ha, rfl⟩)) _).trans (Function.update_self ..)
          · exact Alike.right rfl (Alike.right rfl (Alike.right rfl (Alike.right rfl
              ⟨rfl, rfl, h⟩)))
  · have hselect : (Statement.selectAlert i alertId).run s = (.error .internal, s) := by
      rw [Statement.selectAlert, run_bind_ite (Statement.bindParam_run alertId s), if_neg hid]
    have hget : (dbGet (·.alerts) alertId).run s.session = (.error .internal, s.session) := by
      rw [dbGet_run, if_neg hid]
    exact ⟨by rw [run_bind, run_bind, hselect, hget], by
      rw [run_bind, run_bind, hselect, hget]; exact atRest_session h⟩

-- ---------------------------------------------------------------------------
-- Any writing request
-- ---------------------------------------------------------------------------

theorem handle_alike (env : Env) (turns : ℕ) (h : s.owner = fun _ => none)
    (hturns : s.instances.table.rows.length < turns) (m : Member) (req : WriteRequest) :
    Alike AtRest (Live.handle env i turns m req).alone (handle env m req.request) s s.session := by
  cases req with
  | createInstance body => exact createInstance_alike env h m body
  | updateStatus instanceId body => exact updateStatus_alike env h m instanceId body
  | deleteInstance instanceId => exact deleteInstance_alike h m instanceId
  | warnings page size => exact scan_alike env _ page size (atRest_session h) hturns
  | errors page size => exact scan_alike env _ page size (atRest_session h) hturns
  | longStopped page size =>
    change Alike AtRest (Live.longStopped env i turns m page size).alone
      (MonitorController.longStopped env m page size) s s.session
    simp only [Live.longStopped, MonitorController.longStopped, checkLongStopped, alone_bind,
      alone_atomic, Fallible.bind_assoc]
    refine Alike.left rfl (Alike.right (utcnow_run env s.session) ?_)
    exact scan_alike env _ page size ⟨rfl, h⟩ hturns
  | resolveAlert alertId => exact resolveAlert_alike env h m alertId
  | createClient body => exact createClient_alike env h m body

/-- On its own a request in flight is the endpoint of the API, given turns for
as many batches as there are instances. -/
theorem answer_alone (env : Env) (i : ι) (turns : ℕ) (sub : ℤ) (req : WriteRequest) (w : World)
    (hturns : w.db.instances.rows.length < turns) :
    Alike AtRest (Live.answer env i turns sub req).alone (answer env sub (.ofMember req.request))
      (start w) w.session := by
  have h : (start w : LiveDatabase ι).owner = fun _ => none := rfl
  change Alike AtRest (Live.answer env i turns sub req).alone
    (getCurrentMember sub >>= fun m => handle env m req.request) (start w)
    (start w : LiveDatabase ι).session
  simp only [Live.answer, Live.getCurrentMember, getCurrentMember, alone_bind, alone_atomic,
    Fallible.bind_assoc]
  refine lookup_alike h (Statement.selectMember_run sub _) fun _ => ?_
  cases (start w : LiveDatabase ι).db.members.find? sub with
  | none => exact ⟨rfl, rfl, h⟩
  | some m => exact handle_alike env turns h hturns m req

end

end CloudMonitor
