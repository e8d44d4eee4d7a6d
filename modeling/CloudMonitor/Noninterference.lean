import CloudMonitor.Tenancy

/-!
# Managers see only their own tenants

Two databases that agree on a manager's rows answer each of the manager's
queries alike, so nothing outside those rows can be read through any filter,
order, page or count.
-/

namespace CloudMonitor

open Fallible

def Alike (m : Member) (s t : Session) : Prop := Agree m s.view t.view

/-- They also read the same clock next. -/
def AlikeNow (env : Env) (m : Member) (s t : Session) : Prop :=
  Alike m s t ∧ env.clock s.tick = env.clock t.tick

def AlikeFor (env : Env) (m : Member) (clientId : ℤ) (s t : Session) : Prop :=
  AlikeNow env m s t ∧ Manages m s.view clientId

-- ---------------------------------------------------------------------------
-- The primitives
-- ---------------------------------------------------------------------------

section
variable {R : Session → Session → Prop}

theorem Twin.view_bind {f : Database → Svc β} (hf : ∀ s t, R s t → f s.view = f t.view)
    (ht : ∀ db, Twin R (f db)) : Twin R (view >>= f) := by
  intro s t hst
  simp only [run_bind, view_run]
  rw [← hf s t hst]
  exact ht s.view s t hst

theorem SameReply.view_bind {f : Database → Svc β} (hf : ∀ s t, R s t → f s.view = f t.view)
    (ht : ∀ db, SameReply R (f db)) : SameReply R (view >>= f) := by
  intro s t hst
  simp only [run_bind, view_run]
  rw [← hf s t hst]
  exact ht s.view s t hst

theorem twin_bindParam (n : ℤ) : Twin R (bindParam n) := .ite (.pure ()) (.raise _)

theorem twin_dbGet {α : Type} [Row α] {table : Database → Table α} {i : ℤ}
    (h : ∀ s t, R s t → (table s.view).find? i = (table t.view).find? i) : Twin R (dbGet table i) :=
  (twin_bindParam i).bind fun _ =>
    Twin.view_bind (fun s t hst => by rw [h s t hst]) fun _ => .pure _

theorem twin_paginate {query : Database → List α} {page size : ℕ}
    (h : ∀ s t, R s t → query s.view = query t.view) : Twin R (paginate query page size) := by
  refine Twin.view_bind (fun s t hst => by rw [h s t hst]) fun _ => ?_
  exact (twin_bindParam _).bind fun _ => Twin.view_bind (fun s t hst => by rw [h s t hst]) fun _ =>
    .pure _

end

/-- One clock reading, after which the sessions may read different ones. -/
theorem sameReply_utcnow {f : ℤ → Svc β} (h : ∀ now, SameReply (Alike m) (f now)) :
    SameReply (AlikeNow env m) (utcnow env >>= f) := by
  intro s t hst
  simp only [run_bind, utcnow_run]
  rw [hst.2]
  exact h _ _ _ hst.1

-- ---------------------------------------------------------------------------
-- The endpoints over all clients
-- ---------------------------------------------------------------------------

section
variable {m : Member} {env : Env} (hm : m.role ≠ .admin)
include hm

theorem sameReply_scan {job : ScanJob} (hjob : job.clientIds = accessibleClientIds m)
    (page size : ℕ) :
    SameReply (Alike m) (scan env job page size) := by
  intro s t hst
  rw [scan_run, scan_run, hst.scanMatches_eq hm hjob]

theorem sameReply_listInstances (page size : ℕ) (f : InstanceFilter) (sort : String) :
    SameReply (Alike m) (listInstances (accessibleClientIds m) page size f sort) := by
  have hquery :
      Twin (Alike m) (paginate (instancesQuery (accessibleClientIds m) f sort) page size) :=
    twin_paginate fun s t hst => hst.instancesQuery_eq hm f sort
  unfold listInstances
  cases f.clientId with
  | none => exact ((Twin.pure ()).bind fun _ => hquery).reply
  | some c => exact ((twin_bindParam c).bind fun _ => hquery).reply

theorem sameReply_listAlerts (page size : ℕ) (f : AlertFilter) :
    SameReply (Alike m) (listAlerts (accessibleClientIds m) page size f) :=
  (twin_paginate fun _ _ hst => hst.alertsQuery_eq hm f).reply

theorem sameReply_listClients (page size : ℕ) :
    SameReply (Alike m) (listClients (accessibleClientIds m) page size) :=
  (twin_paginate fun _ _ hst => hst.clientsQuery_eq hm).reply

theorem sameReply_buildReport :
    SameReply (AlikeNow env m) (buildReport env (accessibleClientIds m)) := by
  refine SameReply.view_bind (fun s t hst => ?_) fun _ => sameReply_utcnow fun _ =>
    (Twin.pure _).reply
  simp only [unresolvedAlerts, hst.1.visibleInstances_eq hm, hst.1.scopedAlerts_eq hm]

theorem sameReply_checkLongStopped (page size : ℕ) :
    SameReply (AlikeNow env m) (checkLongStopped env (accessibleClientIds m) page size) :=
  sameReply_utcnow fun _ => sameReply_scan hm rfl page size

end

-- ---------------------------------------------------------------------------
-- The endpoints of one client
-- ---------------------------------------------------------------------------

section
variable {m : Member} {env : Env} {c : ℤ}

theorem twin_getClient : Twin (AlikeFor env m c) (getClient c) := by
  refine (twin_dbGet fun s t hst => hst.1.1.find?_client hst.2).bind fun r => ?_
  cases r with
  | none => exact .raise _
  | some client => exact .pure client

theorem twin_getClientInstances : Twin (AlikeFor env m c) (getClientInstances c) := by
  refine twin_getClient.bind fun _ => Twin.view_bind (fun s t hst => ?_) fun _ => .pure _
  rw [hst.1.1.clientInstancesQuery_eq hst.2]

theorem twin_ownClient : Twin (AlikeFor env m c) (ClientController.ownClient m c) :=
  twin_getClient.bind fun _ => .ite (.pure ()) (.ite (.raise _) (.pure ()))

theorem sameReply_listClientInstances (page size : ℕ) :
    SameReply (AlikeFor env m c) (listClientInstances c page size) :=
  (twin_getClient.bind fun _ => twin_paginate fun _ _ hst => hst.1.1.clientInstancesQuery_eq
    hst.2).reply

theorem sameReply_utcnow_pure {f : ℤ → β} :
    SameReply (AlikeFor env m c) (utcnow env >>= fun now => Pure.pure (f now)) :=
  SameReply.mono (sameReply_utcnow fun _ => (Twin.pure _).reply) fun _ _ hst => hst.1

theorem sameReply_getClientCost : SameReply (AlikeFor env m c) (getClientCost env c) :=
  twin_getClient.bind_reply fun _ => twin_getClientInstances.bind_reply fun _ =>
    sameReply_utcnow_pure

theorem sameReply_getSla : SameReply (AlikeFor env m c) (getSla env c) :=
  twin_getClient.bind_reply fun _ => twin_getClientInstances.bind_reply fun _ =>
    sameReply_utcnow_pure

theorem sameReply_getCostForecast : SameReply (AlikeFor env m c) (getCostForecast env c) := by
  refine twin_getClient.bind_reply fun _ => SameReply.view_bind (fun s t hst => ?_) fun _ =>
    sameReply_utcnow_pure
  simp only [hst.1.1.runningCounts_eq hst.2]

end

-- ---------------------------------------------------------------------------
-- Requests
-- ---------------------------------------------------------------------------

/-- The queries over the caller's estate, and those of one client they manage. -/
def MemberRequest.OwnQuery (m : Member) (db : Database) : MemberRequest → Prop
  | .listClients .. | .listInstances .. | .listAlerts .. | .warnings .. | .errors .. |
    .longStopped .. | .report => True
  | .clientInstances clientId .. | .clientCost clientId | .clientCostForecast clientId |
    .clientSla clientId => Manages m db clientId
  | _ => False

theorem handle_sameReply {env : Env} {m : Member} {w w' : World} (hm : m.role ≠ .admin)
    (hagree : Agree m w.db w'.db) (hnow : env.clock w.tick = env.clock w'.tick)
    {req : MemberRequest} (hreq : req.OwnQuery m w.db) :
    ((handle env m req).run w.session).1 = ((handle env m req).run w'.session).1 := by
  have alike : Alike m w.session w'.session := hagree
  have now : AlikeNow env m w.session w'.session := ⟨hagree, hnow⟩
  have own {c : ℤ} (hc : Manages m w.db c) : AlikeFor env m c w.session w'.session := ⟨now, hc⟩
  cases req with
  | listClients page size => exact (sameReply_listClients hm _ _).map _ _ _ alike
  | listInstances page size filter sort =>
    exact (sameReply_listInstances hm _ _ _ _).map _ _ _ alike
  | listAlerts page size filter => exact (sameReply_listAlerts hm _ _ _).map _ _ _ alike
  | warnings page size => exact SameReply.map (sameReply_scan hm rfl _ _) _ _ _ alike
  | errors page size => exact SameReply.map (sameReply_scan hm rfl _ _) _ _ _ alike
  | longStopped page size => exact (sameReply_checkLongStopped hm _ _).map _ _ _ now
  | report => exact (sameReply_buildReport hm).map _ _ _ now
  | clientInstances c page size =>
    exact twin_ownClient.bind_reply
      (fun _ => (sameReply_listClientInstances _ _).map _) _ _ (own hreq)
  | clientCost c =>
    exact twin_ownClient.bind_reply (fun _ => sameReply_getClientCost.map _) _ _ (own hreq)
  | clientCostForecast c =>
    exact twin_ownClient.bind_reply (fun _ => sameReply_getCostForecast.map _) _ _ (own hreq)
  | clientSla c => exact twin_ownClient.bind_reply (fun _ => sameReply_getSla.map _) _ _ (own hreq)
  | createInstance | getInstance | updateStatus | deleteInstance | diagnoseInstance | resolveAlert |
    createClient => exact hreq.elim

-- ---------------------------------------------------------------------------
-- What is in a reply
-- ---------------------------------------------------------------------------

def PageResponse.Of (P : α → Prop) (p : PageResponse α) : Prop :=
  ∃ rows page size, p = pageResponse (pageOf rows page.val size.val) page size ∧ ∀ r ∈ rows, P r

theorem PageResponse.Of.empty {P : α → Prop} {p : PageResponse α} (h : p.Of P) (hP : ∀ r, ¬P r) :
    p.items = [] ∧ p.total = 0 ∧ p.totalPages = 0 := by
  obtain ⟨rows, page, size, rfl, hrows⟩ := h
  obtain rfl : rows = [] := List.eq_nil_iff_forall_not_mem.mpr fun r hr => hP r (hrows r hr)
  refine ⟨by simp [pageResponse, pageOf, window], rfl, ?_⟩
  simp only [pageResponse, pageOf, List.length_nil, Nat.zero_add]
  exact Nat.div_eq_of_lt (Nat.sub_lt size.one_le Nat.one_pos)

def Payload.OwnedBy (m : Member) (db : Database) : Payload → Prop
  | .instances p => p.Of fun i => Manages m db i.clientId
  | .alerts p => p.Of (ManagesAlert m db)
  | .clients p => p.Of fun c => c ∈ db.clients ∧ c.managerId = m.id
  | .report r => ∀ a ∈ r.unresolvedAlerts, ManagesAlert m db a
  | _ => True

def Payload.IsEmpty : Payload → Prop
  | .instances p => p.items = [] ∧ p.total = 0 ∧ p.totalPages = 0
  | .alerts p => p.items = [] ∧ p.total = 0 ∧ p.totalPages = 0
  | .clients p => p.items = [] ∧ p.total = 0 ∧ p.totalPages = 0
  | .report r => (∀ e ∈ r.instanceCountByStatus, e.2 = 0) ∧ r.warningCount = 0 ∧
    r.totalMonthlyCost = 0 ∧
    r.unresolvedAlertCount = 0 ∧ r.unresolvedAlerts = []
  | _ => True

def Payload.Confined (m : Member) (db : Database) (p : Payload) : Prop :=
  p.OwnedBy m db ∧ ((∀ c ∈ db.clients, c.managerId ≠ m.id) → p.IsEmpty)

theorem not_manages {m : Member} {db : Database} (h : ∀ c ∈ db.clients, c.managerId ≠ m.id)
    (c : ℤ) :
    ¬Manages m db c := by
  rintro ⟨r, hr, hman, -⟩
  exact h r hr hman

theorem not_managesAlert {m : Member} {db : Database} (h : ∀ c ∈ db.clients, c.managerId ≠ m.id)
    (a : Alert) : ¬ManagesAlert m db a := by
  rintro ⟨i, -, -, hman⟩
  exact not_manages h _ hman

section
variable {m : Member} {env : Env} {w : World} {page : PageParam} {size : SizeParam}

theorem confined_instances {rows : List Instance} (h : ∀ i ∈ rows, Manages m w.db i.clientId) :
    (Payload.instances (pageResponse (pageOf rows page.val size.val) page size)).Confined m
      w.db := by
  have hof : (pageResponse (pageOf rows page.val size.val) page size).Of fun i =>
      Manages m w.db i.clientId :=
    ⟨rows, page, size, rfl, h⟩
  exact ⟨hof, fun hnone => hof.empty fun i => not_manages hnone _⟩

theorem confined_alerts {rows : List Alert} (h : ∀ a ∈ rows, ManagesAlert m w.db a) :
    (Payload.alerts (pageResponse (pageOf rows page.val size.val) page size)).Confined m w.db := by
  have hof : (pageResponse (pageOf rows page.val size.val) page size).Of (ManagesAlert m w.db) :=
    ⟨rows, page, size, rfl, h⟩
  exact ⟨hof, fun hnone => hof.empty (not_managesAlert hnone)⟩

theorem confined_clients {rows : List Client}
    (h : ∀ c ∈ rows, c ∈ w.db.clients ∧ c.managerId = m.id) :
    (Payload.clients (pageResponse (pageOf rows page.val size.val) page size)).Confined m w.db := by
  have hof : (pageResponse (pageOf rows page.val size.val) page size).Of
      fun c => c ∈ w.db.clients ∧ c.managerId = m.id := ⟨rows, page, size, rfl, h⟩
  exact ⟨hof, fun hnone => hof.empty fun c hc => hnone c hc.1 hc.2⟩

variable (hm : m.role ≠ .admin)
include hm

theorem mem_scopedAlerts {a : Alert} (h : a ∈ scopedAlerts (accessibleClientIds m) w.db) :
    ManagesAlert m w.db a := by
  rw [scopedAlerts_eq] at h
  exact (alertInScope_iff hm a).mp (List.mem_filter.mp h).2

theorem mem_visibleInstances {i : Instance}
    (h : i ∈ visibleInstances (accessibleClientIds m) w.db) :
    Manages m w.db i.clientId := (inScope_manager hm).mp (List.mem_filter.mp h).2

theorem confined_report (r : MonitorReport) (s' : Session)
    (h : (buildReport env (accessibleClientIds m)).run w.session = (.ok r, s')) :
    (Payload.report r).Confined m w.db := by
  have hunresolved : ∀ a ∈ unresolvedAlerts (accessibleClientIds m) w.db, ManagesAlert m w.db a :=
    fun a ha => mem_scopedAlerts hm (List.mem_filter.mp ha).1
  simp only [buildReport, run_bind, view_run, utcnow_run, run_pure, Prod.mk.injEq, Except.ok.injEq,
    World.session] at h
  obtain ⟨rfl, -⟩ := h
  constructor
  · intro a ha
    exact hunresolved a ((List.mem_insertionSort _).mp (List.mem_of_mem_take ha))
  · intro hnone
    have hi : visibleInstances (accessibleClientIds m) w.db = [] :=
      List.eq_nil_iff_forall_not_mem.mpr fun i hi =>
        not_manages hnone _ (mem_visibleInstances hm hi)
    have ha : unresolvedAlerts (accessibleClientIds m) w.db = [] :=
      List.eq_nil_iff_forall_not_mem.mpr fun a ha => not_managesAlert hnone a (hunresolved a ha)
    simp only [Payload.IsEmpty, hi, ha]
    exact ⟨by simp, rfl, by simp, rfl, rfl⟩

theorem mem_scanMatches {job : ScanJob} (hjob : job.clientIds = accessibleClientIds m)
    {i : Instance} (h : i ∈ scanMatches job w.db) : Manages m w.db i.clientId := by
  simp only [scanMatches, matchesFrom, ScanJob.query, hjob, List.mem_filter, Bool.and_eq_true] at h
  exact (inScope_manager hm).mp h.2.1.2

theorem scan_confined {job : ScanJob} (hjob : job.clientIds = accessibleClientIds m) :
    Triple (scan env job page.val size.val >>= fun p =>
      Pure.pure (.instances (pageResponse p page size)))
      w.session (fun p _ => Payload.Confined m w.db p) (fun _ _ => True) := by
  refine Triple.bind (Triple.of_ok
    (Q := fun p _ => p = pageOf (scanMatches job w.db) page.val size.val)
    (scan_run env job page.val size.val w.session) rfl) ?_
  rintro _ _ rfl
  exact Triple.pure (confined_instances fun i hi => mem_scanMatches hm hjob hi)

theorem handle_confined {req : MemberRequest} (hreq : req.OwnQuery m w.db) :
    Triple (handle env m req) w.session (fun p _ => p.Confined m w.db) (fun _ _ => True) := by
  cases req with
  | listClients page size =>
    refine Triple.bind (paginate_triple _ _ _ _).ok ?_
    rintro _ _ ⟨rfl, rfl⟩
    exact Triple.pure (confined_clients fun c hc => (mem_clientsQuery hm).mp hc)
  | listInstances page size filter sort =>
    refine Triple.bind (listInstances_triple _ _ _ _ _ _).ok ?_
    rintro _ _ ⟨rfl, rfl⟩
    refine Triple.pure (confined_instances fun i hi => ?_)
    rw [instancesQuery, List.mem_insertionSort, List.mem_filter, Bool.and_eq_true] at hi
    exact (inScope_manager hm).mp hi.2.1
  | listAlerts page size filter =>
    refine Triple.bind (paginate_triple _ _ _ _).ok ?_
    rintro _ _ ⟨rfl, rfl⟩
    refine Triple.pure (confined_alerts fun a ha => mem_scopedAlerts hm ?_)
    have hscoped : (accessibleClientIds m).isSome = true := by simp [accessibleClientIds, hm]
    simp only [alertsQuery, hscoped, if_true, List.mem_insertionSort] at ha
    exact (List.mem_filter.mp ha).1
  | warnings page size => exact scan_confined hm rfl
  | errors page size => exact scan_confined hm rfl
  | longStopped page size =>
    refine Triple.bind (Triple.of_ok (Q := fun p _ => p = pageOf (scanMatches (longStoppedJob env
      (accessibleClientIds m) (env.clock w.tick)) w.db) page.val size.val)
        (checkLongStopped_run ..) rfl) ?_
    rintro _ _ rfl
    exact Triple.pure (confined_instances fun i hi => mem_scanMatches hm rfl hi)
  | report =>
    refine Triple.bind (Q := fun r _ => (Payload.report r).Confined m w.db) ?_ fun _ _ h =>
      Triple.pure h
    exact Triple.of_ok rfl (confined_report hm _ _ rfl)
  | clientInstances c page size =>
    refine Triple.bind (ClientController.ownClient_triple m c w.session).ok ?_
    rintro _ _ rfl
    refine Triple.bind (listClientInstances_triple c _ _ _).ok ?_
    rintro _ _ ⟨rfl, rfl⟩
    refine Triple.pure (confined_instances fun i hi => ?_)
    rw [beq_iff_eq.mp (List.mem_filter.mp hi).2]
    exact hreq
  | clientCost c | clientCostForecast c | clientSla c =>
    refine Triple.bind (Triple.trivial _ _) fun _ _ _ =>
      Triple.bind (Triple.trivial _ _) fun _ _ _ => ?_
    exact Triple.pure ⟨trivial, fun _ => trivial⟩
  | createInstance | getInstance | updateStatus | deleteInstance | diagnoseInstance | resolveAlert |
    createClient => exact hreq.elim

end

/-- A manager's own queries are answered alike on any two databases that agree
on the manager's rows; all rows in a reply are the manager's, and a manager
without clients gets none. -/
theorem manager_noninterference (env : Env) (m : Member) (hrole : m.role = .clientManager)
    (w w' : World)
    (hagree : Agree m w.db w'.db) (hnow : env.clock w.tick = env.clock w'.tick)
    (req : MemberRequest) (hreq : req.OwnQuery m w.db) :
    (serve env m.id (.ofMember req) w).1 = (serve env m.id (.ofMember req) w').1 ∧
    ∀ reply, (serve env m.id (.ofMember req) w).1 = .ok reply → reply.Confined m w.db := by
  have hm : m.role ≠ .admin := by simp [hrole]
  constructor
  · rw [serve_reply hagree.member, serve_reply hagree.member', handle_sameReply hm hagree hnow hreq]
  · intro reply hreply
    rw [serve_reply hagree.member] at hreply
    split at hreply
    · exact (handle_confined hm hreq).returned hreply
    · cases hreply

/-- The seeded database after the second manager deletes one of their instances. -/
def dbAfterDelete : Database :=
  (serve (.every 1) manager2.id (.ofMember (.deleteInstance 13)) (seeded (.every 1))).2.db

theorem dbAfterDelete_agree : Agree manager1 (seeded (.every 1)).db dbAfterDelete := by
  have h := (serve_effect (.every 1) (.ofMember (.deleteInstance 13)) _ manager2_seeded).staysInside
      (by decide)
    (seeded_wellFormed _)
  unfold dbAfterDelete
  exact h.agree (by decide) manager1_seeded

theorem manager_noninterference_seeded :
    (serve (.every 1) manager1.id (.ofMember
      (.listInstances ⟨1, by decide⟩ ⟨10, by decide, by decide⟩ {} "-cpuUsage"))
        (seeded (.every 1))).1 =
      (serve (.every 1) manager1.id
        (.ofMember (.listInstances ⟨1, by decide⟩ ⟨10, by decide, by decide⟩ {} "-cpuUsage"))
          ⟨dbAfterDelete, (seeded (.every 1)).tick⟩).1 := by
  have hsame (w : World) (db : Database) (hagree : Agree manager1 w.db db) (req : MemberRequest)
      (hreq : req.OwnQuery manager1 w.db) :
      (serve (.every 1) manager1.id (.ofMember req) w).1 =
        (serve (.every 1) manager1.id (.ofMember req) ⟨db, w.tick⟩).1 :=
    (manager_noninterference (.every 1) manager1 rfl w ⟨db, w.tick⟩ hagree rfl req hreq).1
  exact hsame _ _ dbAfterDelete_agree _ trivial

end CloudMonitor
