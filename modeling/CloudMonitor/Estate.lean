import CloudMonitor.Access
import CloudMonitor.Report

/-!
# Managers partition the estate

Every client has one manager, every instance one client and every alert one
instance. So an `ADMIN` sees what the managers see together, no row twice, and
the `ADMIN`'s totals and figures are the sums of theirs.
-/

namespace CloudMonitor

open Fallible

def managers (db : Database) : List Member := db.members.rows.filter (·.role == .clientManager)

section
variable {env : Env} {w : World} {m : Member} {clientIds : Option Select}

/-- A client is in the scope of exactly one manager. -/
theorem manager_of_client (wf : WellFormed env w) {c : ℤ} (hc : c ∈ w.db.clients.ids) :
    ∃ m, (managers w.db).filter (fun m => inScope (accessibleClientIds m) w.db c) = [m] := by
  obtain ⟨client, hclient, rfl⟩ := Table.mem_ids.mp hc
  obtain ⟨m, hm, hid, hrole⟩ := wf.client_manager client hclient
  refine ⟨m, ?_⟩
  rw [managers, List.filter_filter]
  refine Table.filter_eq_singleton hm ?_ fun m' hm' hp => ?_
  · simp [inScope_client hclient, hrole, hid]
  · simp only [Bool.and_eq_true, beq_iff_eq] at hp
    have hscope := (inScope_client hclient).mp hp.1
    simp only [hp.2, reduceCtorEq, false_or] at hscope
    exact Table.unique hm' hm (hscope.symm.trans hid.symm)

theorem clients_shared (wf : WellFormed env w) : Shared w.db.clients.rows (managers w.db)
    fun m c => inScope (accessibleClientIds m) w.db c.id :=
  fun c hc => manager_of_client wf (Table.mem_ids.mpr ⟨c, hc, rfl⟩)

theorem instances_shared (wf : WellFormed env w) : Shared w.db.instances.rows (managers w.db)
    fun m i => inScope (accessibleClientIds m) w.db i.clientId :=
  fun i hi => manager_of_client wf (wf.instance_client i hi)

theorem alerts_shared (wf : WellFormed env w) : Shared w.db.alerts.rows (managers w.db)
    fun m a => alertVisible (accessibleClientIds m) w.db a := by
  intro a ha
  obtain ⟨i, hi, hai⟩ := Table.mem_ids.mp (wf.alert_instance a ha)
  obtain ⟨m, hm⟩ := manager_of_client wf (wf.instance_client i hi)
  refine ⟨m, hm ▸ List.filter_congr fun m' _ => ?_⟩
  rw [Bool.eq_iff_iff]
  exact alertVisible_iff hi hai

theorem visibleInstances_admin (hadmin : m.role = .admin) (db : Database) :
    visibleInstances (accessibleClientIds m) db = db.instances.rows := by
  simp [visibleInstances, inScope_admin hadmin]

theorem alertVisible_admin (hadmin : m.role = .admin) (db : Database) (a : Alert) :
    alertVisible (accessibleClientIds m) db a = true := by
  simp [alertVisible, accessibleClientIds, hadmin]

theorem unresolvedAlerts_eq (wf : WellFormed env w) :
    unresolvedAlerts clientIds w.db =
      (w.db.alerts.rows.filter fun a => alertVisible clientIds w.db a).filter
        fun a => !a.isResolved := by
  rw [unresolvedAlerts, scopedAlerts_eq]
  refine congrArg _ (List.filter_congr fun a ha => ?_)
  rw [alertVisible_eq wf.alert_instance ha]

end

-- ---------------------------------------------------------------------------
-- Listings
-- ---------------------------------------------------------------------------

/-- What the `ADMIN` is shown, each row is shown to one manager, and the totals
add up. -/
structure SharedOut (s : Session) (managers : List Member) (admin : Member)
    (call : Option Select → ℕ → Svc (Page α)) : Prop where
  union : ∀ r, Shown s (fun page => call (accessibleClientIds admin) page.val) r ↔
    ∃ m ∈ managers, Shown s (fun page => call (accessibleClientIds m) page.val) r
  disjoint : managers.Pairwise fun m m' => ∀ r,
    Shown s (fun page => call (accessibleClientIds m) page.val) r →
      ¬Shown s (fun page => call (accessibleClientIds m') page.val) r
  total : ∃ (n : ℕ) (ns : Member → ℕ), Total s (call (accessibleClientIds admin)) n ∧
    (∀ m ∈ managers, Total s (call (accessibleClientIds m)) (ns m)) ∧ n = (managers.map ns).sum

theorem Shared.sharedOut {α : Type} [Row α] {s : Session} {t : Table α} {managers : List Member}
    {admin : Member} {call : Option Select → ℕ → Svc (Page α)} {rows : Option Select → List α}
    {visible : Option Select → α → Bool} {size : SizeParam}
    (h : Shared t.rows managers fun m => visible (accessibleClientIds m)) (ht : t.Stored)
    (hlists : ∀ ids, Lists s (rows ids) size.val (fun page => [offset size.val page]) (call ids))
    (hrows : ∀ ids, (rows ids).Perm (t.rows.filter (visible ids)))
    (hadmin : ∀ r, visible (accessibleClientIds admin) r = true) :
    SharedOut s managers admin call := by
  have hshown : ∀ ids r, Shown s (fun page => call ids page.val) r ↔ r ∈ t ∧ visible ids r :=
    fun ids r => (hlists ids).shown_table ht (hrows ids) r
  constructor
  case union =>
    intro r
    simp only [hshown, hadmin, and_true]
    constructor
    · intro hr
      obtain ⟨m, hm, hvisible⟩ := h.exists_owner hr
      exact ⟨m, hm, hr, hvisible⟩
    · rintro ⟨m, -, hr, -⟩
      exact hr
  case disjoint =>
    refine (h.disjoint t.nodup).imp fun {m m'} hdisjoint r hr hr' => ?_
    exact hdisjoint r (List.mem_filter.mpr ((hshown _ r).mp hr))
      (List.mem_filter.mpr ((hshown _ r).mp hr'))
  case total =>
    refine ⟨_, fun m => (rows (accessibleClientIds m)).length, (hlists _).total,
      fun m _ => (hlists _).total, ?_⟩
    have hall : t.rows.filter (visible (accessibleClientIds admin)) = t.rows :=
      List.filter_eq_self.mpr fun r _ => hadmin r
    simp only [(hrows _).length_eq, hall]
    exact h.length

-- ---------------------------------------------------------------------------
-- Reports
-- ---------------------------------------------------------------------------

structure FiguresAddUp (db : Database) (managers : List Member) (admin : Member)
    (r : MonitorReport) (rs : Member → MonitorReport) : Prop where
  statusCount : ∀ status, ∃ (n : ℕ) (ns : Member → ℕ),
    r.instanceCountByStatus.lookup status = some n ∧
    (∀ m, (rs m).instanceCountByStatus.lookup status = some (ns m)) ∧ n = (managers.map ns).sum
  warningCount : r.warningCount = (managers.map fun m => (rs m).warningCount).sum
  unresolvedAlertCount :
    r.unresolvedAlertCount = (managers.map fun m => (rs m).unresolvedAlertCount).sum
  totalMonthlyCost : r.totalMonthlyCost = roundTo 2 (exactCost (accessibleClientIds admin) db) ∧
    (∀ m, (rs m).totalMonthlyCost = roundTo 2 (exactCost (accessibleClientIds m) db)) ∧
    exactCost (accessibleClientIds admin) db =
      (managers.map fun m => exactCost (accessibleClientIds m) db).sum

section
variable {α : Type} {rows : List α} {owners : List Member} {owns : Member → α → Bool}

theorem Shared.length_filter (h : Shared rows owners owns) (p : α → Bool) :
    (rows.filter p).length =
      (owners.map fun m => ((rows.filter (owns m)).filter p).length).sum := by
  rw [(h.filter p).length]
  simp only [List.filter_filter, Bool.and_comm]

end

theorem figures_add_up {env : Env} {w : World} {admin : Member} {r : MonitorReport}
    {rs : Member → MonitorReport} (wf : WellFormed env w) (hadmin : admin.role = .admin)
    (hr : Reports env (accessibleClientIds admin) w.db r)
    (hrs : ∀ m, Reports env (accessibleClientIds m) w.db (rs m)) :
    FiguresAddUp w.db (managers w.db) admin r rs := by
  have hinstances := instances_shared wf
  constructor
  case statusCount =>
    intro status
    refine ⟨_, _, hr.statusCount status, fun m => (hrs m).statusCount status, ?_⟩
    rw [instancesByStatus, visibleInstances_admin hadmin, hinstances.length_filter]
    rfl
  case warningCount =>
    simp only [hr.warningCount, (hrs _).warningCount]
    rw [visibleInstances_admin hadmin, hinstances.length_filter]
    rfl
  case unresolvedAlertCount =>
    simp only [hr.unresolvedAlertCount, (hrs _).unresolvedAlertCount, unresolvedAlerts_eq wf]
    simp only [alertVisible_admin hadmin, List.filter_true]
    rw [(alerts_shared wf).length_filter]
  case totalMonthlyCost =>
    refine ⟨hr.totalMonthlyCost, fun m => (hrs m).totalMonthlyCost, ?_⟩
    rw [exactCost, visibleInstances_admin hadmin, hinstances.sum]
    rfl

-- ---------------------------------------------------------------------------
-- The estate
-- ---------------------------------------------------------------------------

/-- In every reachable database the clients have managers, and these partition
what an `ADMIN` is shown and what an `ADMIN`'s report counts. -/
theorem managers_partition_estate (env : Env) (w : World) (h : Reachable env w)
    (hs : w.db.Stored) (admin : Member) (hadmin : admin.role = .admin) (size : SizeParam) :
    (∀ c ∈ w.db.clients, ∃ m ∈ w.db.members, m.id = c.managerId ∧ m.role = .clientManager) ∧
    SharedOut w.session (managers w.db) admin (fun ids page => listClients ids page size.val) ∧
    (∀ sort, SharedOut w.session (managers w.db) admin
      fun ids page => listInstances ids page size.val {} sort) ∧
    SharedOut w.session (managers w.db) admin (fun ids page => listAlerts ids page size.val {}) ∧
    ∃ r rs, ((buildReport env (accessibleClientIds admin)).run w.session).1 = .ok r ∧
      (∀ m, ((buildReport env (accessibleClientIds m)).run w.session).1 = .ok (rs m)) ∧
      FiguresAddUp w.db (managers w.db) admin r rs := by
  have wf := h.wellFormed
  refine ⟨wf.client_manager, ?_, fun sort => ?_, ?_, ?_⟩
  · exact (clients_shared wf).sharedOut hs.clients
      (fun ids => listClients_lists ids size.val w.session) (fun _ => .refl _)
      fun _ => inScope_admin hadmin
  · exact (instances_shared wf).sharedOut hs.instances
      (fun ids => listInstances_lists ids size.val {} sort w.session)
      (fun ids => instancesQuery_perm ids sort w.db) fun _ => inScope_admin hadmin
  · exact (alerts_shared wf).sharedOut hs.alerts
      (fun ids => listAlerts_lists ids size.val {} w.session)
      (fun ids => alertsQuery_perm ids w.db) (alertVisible_admin hadmin w.db)
  · choose rs hrun hrs using fun ids => buildReport_run env ids w.session
    exact ⟨rs (accessibleClientIds admin), fun m => rs (accessibleClientIds m),
      congrArg Prod.fst (hrun _), fun m => congrArg Prod.fst (hrun _),
      figures_add_up wf hadmin (hrs _) fun m => hrs _⟩

theorem managers_partition_estate_seeded :
    SharedOut (seeded (.every 1)).session (managers (seeded (.every 1)).db)
      ⟨1, "", "", "", .admin⟩ (fun ids page => listClients ids page defaultSize) :=
  (managers_partition_estate _ _ ⟨_, .start⟩ seeded_stored ⟨1, "", "", "", .admin⟩ rfl {}).2.1

end CloudMonitor
