import CloudMonitor.Integrity
import CloudMonitor.Lib.Share
import CloudMonitor.Listings

/-!
# The monitoring report and the listings

The report counts by its own queries, and joins alerts with their instances
even for an `ADMIN`. In a reachable database every alert has its instance, and
the figures are the totals of the listings.
-/

namespace CloudMonitor

open Fallible

-- ---------------------------------------------------------------------------
-- What a report says
-- ---------------------------------------------------------------------------

def instancesByStatus (clientIds : Option Select) (db : Database) (status : InstanceStatus) :
    List Instance :=
  (visibleInstances clientIds db).filter (·.status == status)

def exactCost (clientIds : Option Select) (db : Database) : ℚ :=
  ((visibleInstances clientIds db).map Instance.monthlyCost).sum

structure Reports (env : Env) (clientIds : Option Select) (db : Database) (r : MonitorReport) :
    Prop where
  instanceCountByStatus : r.instanceCountByStatus =
    [InstanceStatus.running, .stopped, .error].map fun status =>
      (status, (instancesByStatus clientIds db status).length)
  warningCount : r.warningCount =
    ((visibleInstances clientIds db).filter (isWarning env.settings)).length
  totalMonthlyCost : r.totalMonthlyCost = roundTo 2 (exactCost clientIds db)
  unresolvedAlertCount : r.unresolvedAlertCount = (unresolvedAlerts clientIds db).length
  unresolvedAlerts : r.unresolvedAlerts =
    ((unresolvedAlerts clientIds db).insertionSort newestFirst).take reportAlertLimit

theorem buildReport_run (env : Env) (clientIds : Option Select) (s : Session) :
    ∃ r, (buildReport env clientIds).run s = (.ok r, { s with tick := s.tick + 1 }) ∧
      Reports env clientIds s.view r := by
  refine ⟨_, rfl, ?_⟩
  constructor
  case instanceCountByStatus => rfl
  case warningCount => rfl
  case totalMonthlyCost => rfl
  case unresolvedAlertCount => rfl
  case unresolvedAlerts => rfl

theorem Reports.statusCount (h : Reports env clientIds db r) (status : InstanceStatus) :
    r.instanceCountByStatus.lookup status =
      some (instancesByStatus clientIds db status).length := by
  rw [h.instanceCountByStatus]
  cases status <;> rfl

-- ---------------------------------------------------------------------------
-- The listings of the same rows
-- ---------------------------------------------------------------------------

section
variable {clientIds : Option Select} {db : Database}

theorem length_instancesQuery (clientIds : Option Select) (f : InstanceFilter) (sort : String)
    (db : Database) : (instancesQuery clientIds f sort db).length =
      ((visibleInstances clientIds db).filter f.matches).length := by
  rw [instancesQuery, List.length_insertionSort, visibleInstances, List.filter_filter]
  simp only [Bool.and_comm]

theorem matches_status (status : InstanceStatus) :
    ({ status := some status } : InstanceFilter).matches = (·.status == status) := by
  funext i
  simp [InstanceFilter.matches]

theorem statuses_shared (rows : List Instance) :
    Shared rows [InstanceStatus.running, .stopped, .error] fun status i => i.status == status := by
  intro i _
  cases h : i.status <;> simp [h]

theorem Reports.sum_statusCounts {r : MonitorReport} (h : Reports env clientIds db r) :
    (r.instanceCountByStatus.map Prod.snd).sum = (visibleInstances clientIds db).length := by
  rw [h.instanceCountByStatus, List.map_map,
    (statuses_shared (visibleInstances clientIds db)).length]
  rfl

theorem scanMatches_warnings (env : Env) (clientIds : Option Select) (db : Database)
    (hpos : ∀ i ∈ db.instances, 0 < i.id) :
    scanMatches (warningsJob env clientIds) db =
      (visibleInstances clientIds db).filter (isWarning env.settings) := by
  rw [scanMatches, matchesFrom, visibleInstances, List.filter_filter]
  refine List.filter_congr fun i hi => ?_
  simp [ScanJob.query, warningsJob, hpos i hi]

/-- No alert is left out by the join. -/
theorem alertVisible_eq (hinst : ∀ a ∈ db.alerts, a.instanceId ∈ db.instances.ids) {a : Alert}
    (ha : a ∈ db.alerts) : alertVisible clientIds db a = alertInScope clientIds db a := by
  obtain ⟨i, hi, hai⟩ := Table.mem_ids.mp (hinst a ha)
  have hfind : db.instances.find? a.instanceId = some i := Table.find?_eq_some.mpr ⟨hi, hai⟩
  cases clientIds with
  | none => simp [alertVisible, alertInScope, hfind, inScope]
  | some scope => rfl

theorem alertsQuery_unresolved (clientIds : Option Select) (db : Database)
    (hinst : ∀ a ∈ db.alerts, a.instanceId ∈ db.instances.ids) :
    alertsQuery clientIds { isResolved := some false } db =
      (unresolvedAlerts clientIds db).insertionSort newestFirst := by
  rw [alertsQuery, visibleAlerts_eq, unresolvedAlerts, scopedAlerts_eq, List.filter_filter]
  refine congrArg _ (List.filter_congr fun a ha => ?_)
  rw [alertVisible_eq hinst ha]
  simp [AlertFilter.matches, Bool.and_comm]

end

-- ---------------------------------------------------------------------------
-- The report agrees with the listings
-- ---------------------------------------------------------------------------

/-- In every reachable database a member's report has the figures of the
member's listings, whatever the size of their pages. -/
theorem report_agrees (env : Env) (w : World) (h : Reachable env w) (m : Member)
    (size : SizeParam) :
    ∃ r, ((buildReport env (accessibleClientIds m)).run w.session).1 = .ok r ∧
      (∀ page : PageParam, ∃ p,
        ((checkWarnings env (accessibleClientIds m) page.val size.val).run w.session).1 = .ok p ∧
          p.total = r.warningCount) ∧
      (∀ status sort, ∃ n, r.instanceCountByStatus.lookup status = some n ∧
        Total w.session (fun page => listInstances (accessibleClientIds m) page size.val
          { status := some status } sort) n) ∧
      (∀ sort, Total w.session
        (fun page => listInstances (accessibleClientIds m) page size.val {} sort)
        (r.instanceCountByStatus.map Prod.snd).sum) ∧
      Total w.session (fun page => listAlerts (accessibleClientIds m) page size.val
        { isResolved := some false }) r.unresolvedAlertCount ∧
      ∀ pages, Answered w.session (fun page => listAlerts (accessibleClientIds m) page size.val
          { isResolved := some false }) pages →
        r.unresolvedAlerts =
          (concatPages pages (pages 1).totalPages).take reportAlertLimit := by
  obtain ⟨r, hrun, hr⟩ := buildReport_run env (accessibleClientIds m) w.session
  have wf := h.wellFormed
  have halerts := listAlerts_lists (accessibleClientIds m) size.val { isResolved := some false }
    w.session
  rw [alertsQuery_unresolved _ w.session.view wf.alert_instance] at halerts
  refine ⟨r, by rw [hrun], fun page => ?_, fun status sort => ?_, fun sort => ?_, ?_,
    fun pages hpages => ?_⟩
  · refine ⟨_, by rw [checkWarnings, scan_run], ?_⟩
    rw [hr.warningCount, ← scanMatches_warnings env _ w.session.view wf.instance_pos]
    rfl
  · refine ⟨_, hr.statusCount status, ?_⟩
    have htotal := (listInstances_lists (accessibleClientIds m) size.val
      { status := some status } sort w.session).total
    rwa [length_instancesQuery, matches_status] at htotal
  · have htotal := (listInstances_lists (accessibleClientIds m) size.val {} sort w.session).total
    have hperm := instancesQuery_perm (accessibleClientIds m) sort w.session.view
    have hall : (r.instanceCountByStatus.map Prod.snd).sum =
        (instancesQuery (accessibleClientIds m) {} sort w.session.view).length :=
      hr.sum_statusCounts.trans hperm.length_eq.symm
    rwa [hall]
  · have htotal := halerts.total
    rwa [List.length_insertionSort, ← hr.unresolvedAlertCount] at htotal
  · rw [hr.unresolvedAlerts, (halerts.windows hpages).concat size.one_le]

/-- A scan for errors has recorded alerts before this report. -/
theorem report_agrees_scanned :
    ∃ r, ((buildReport (.every 1) (accessibleClientIds manager1)).run
        (call (.every 1) (.checkErrors ⟨1, "", "", "", .admin⟩ 1 10)
          (seeded (.every 1))).session).1 = .ok r ∧
      Total (call (.every 1) (.checkErrors ⟨1, "", "", "", .admin⟩ 1 10)
          (seeded (.every 1))).session
        (fun page => listAlerts (accessibleClientIds manager1) page defaultSize
          { isResolved := some false }) r.unresolvedAlertCount := by
  obtain ⟨r, hr, -, -, -, htotal, -⟩ := report_agrees (.every 1)
    (call (.every 1) (.checkErrors ⟨1, "", "", "", .admin⟩ 1 10) (seeded (.every 1)))
    ⟨_, .step .start (.call _)⟩ manager1 {}
  exact ⟨r, hr, htotal⟩

end CloudMonitor
