import CloudMonitor.Seed
import CloudMonitor.Services.MonitorLaws
import Mathlib.Algebra.Order.Floor.Semifield
import Mathlib.Data.Rat.Floor

/-!
# The batched scan and the plain one

The plain scan has no batches: it reads all matching instances, opens an alert
for each one that lacks it, and answers with a slice of what it read.
`scan_plain` says that the walk in batches ends and does just this, whatever
the batch size.
-/

namespace CloudMonitor

open Fallible

-- ---------------------------------------------------------------------------
-- The loop without a bound on its turns
-- ---------------------------------------------------------------------------

/-- `while True` as `_scan` has it: the loop is left on an empty batch and
after a short one. A derivation is a walk that ends. -/
inductive Walks (env : Env) (job : ScanJob) (page size : ℕ) :
    Walk → Session → Walk → Session → Prop
  | drained (v s) (empty : nextBatch env job v.lastId s.view = []) : Walks env job page size v s v s
  | last (v s recorded s') (nonempty : nextBatch env job v.lastId s.view ≠ [])
      (record : (recordAlerts env job (nextBatch env job v.lastId s.view)).run s =
        (.ok recorded, s'))
      (short : (nextBatch env job v.lastId s.view).length < env.idBatchSize) :
      Walks env job page size v s
        (v.next page size (nextBatch env job v.lastId s.view) recorded) s'
  | more (v s recorded s' w t) (nonempty : nextBatch env job v.lastId s.view ≠ [])
      (record : (recordAlerts env job (nextBatch env job v.lastId s.view)).run s =
        (.ok recorded, s'))
      (full : ¬(nextBatch env job v.lastId s.view).length < env.idBatchSize)
      (rest : Walks env job page size
        (v.next page size (nextBatch env job v.lastId s.view) recorded) s' w t) :
      Walks env job page size v s w t

/-- `_scan` with its own loop. -/
def ScanEnds (env : Env) (job : ScanJob) (page size : ℕ) (s : Session) (p : Page Instance)
    (s' : Session) : Prop :=
  ∃ v t, Walks env job page size {} s v t ∧ (commitIfRecorded v.recorded).run t = (.ok (), s') ∧
    p = { items := v.items, total := v.total, totalPages := (v.total + size - 1) / size }

/-- With more turns than matches left the bounded loop is the unbounded one. -/
theorem scanLoop_walks (env : Env) (job : ScanJob) (page size fuel : ℕ) (v : Walk) (s : Session)
    (hfuel : (matchesFrom job s.view v.lastId).length < fuel) :
    ∃ w t, (scanLoop env job page size fuel v).run s = (.ok w, t) ∧
      Walks env job page size v s w t := by
  induction fuel generalizing v s with
  | zero => omega
  | succ fuel ih =>
    have hrest := matchesFrom_nextBatch env job page size v s.view
    simp only [scanLoop, run_bind, view_run]
    rw [run_ite]
    split
    · next hnil =>
      exact ⟨v, s, rfl, .drained v s (List.isEmpty_iff.mp hnil)⟩
    · next hne =>
      rw [List.isEmpty_iff] at hne
      obtain ⟨recorded, new, hrun⟩ : ∃ recorded new,
          (recordAlerts env job (nextBatch env job v.lastId s.view)).run s =
            (.ok recorded, s.addAlerts env new) := ⟨_, _, recordAlerts_run ..⟩
      simp only [run_bind, hrun]
      rw [run_ite]
      split
      · next hshort => exact ⟨_, _, rfl, .last v s _ _ hne hrun hshort⟩
      · next hfull =>
        -- a full batch leaves strictly fewer matches
        have hpos := env.idBatchSize_pos
        have hlen : env.idBatchSize ≤ (matchesFrom job s.view v.lastId).length := by
          rw [nextBatch_eq, List.length_take] at hfull
          omega
        obtain ⟨w, t, hloop, hwalk⟩ := ih (v.next page size
          (nextBatch env job v.lastId s.view) recorded) (s.addAlerts env new) (by
            rw [matchesFrom_alerts, hrest _ hne, List.length_drop]
            omega)
        exact ⟨w, t, hloop, .more v s _ _ w t hne hrun hfull hwalk⟩

theorem Walks.unique {env : Env} {job : ScanJob} {page size : ℕ} {v w w' : Walk} {s t t' : Session}
    (h : Walks env job page size v s w t) (h' : Walks env job page size v s w' t') :
    w = w' ∧ t = t' := by
  induction h with
  | drained v s hnone =>
    cases h' with
    | drained => exact ⟨rfl, rfl⟩
    | last _ _ _ _ hsome => exact absurd hnone hsome
    | more _ _ _ _ _ _ hsome => exact absurd hnone hsome
  | last v s recorded s' hsome hrecord hshort =>
    cases h' with
    | drained _ _ hnone => exact absurd hnone hsome
    | last _ _ _ _ _ hrecord' =>
      cases hrecord.symm.trans hrecord'
      exact ⟨rfl, rfl⟩
    | more _ _ _ _ _ _ _ _ hfull => exact absurd hshort hfull
  | more v s recorded s' w t hsome hrecord hfull hrest ih =>
    cases h' with
    | drained _ _ hnone => exact absurd hnone hsome
    | last _ _ _ _ _ _ hshort => exact absurd hshort hfull
    | more _ _ _ _ _ _ _ hrecord' _ hrest' =>
      cases hrecord.symm.trans hrecord'
      exact ih hrest'

theorem scan_ends (env : Env) (job : ScanJob) (page size : ℕ) (s : Session) (p : Page Instance)
    (s' : Session) :
    ScanEnds env job page size s p s' ↔ (scan env job page size).run s = (.ok p, s') := by
  obtain ⟨v, t, hloop, hwalk⟩ := scanLoop_walks env job page size
    (s.view.instances.rows.length + 1) {} s (Nat.lt_succ_of_le (List.length_filter_le _ _))
  simp only [scan, run_bind, view_run, hloop, commitIfRecorded_run, run_pure]
  constructor
  · rintro ⟨v', t', hwalk', hcommit, rfl⟩
    obtain ⟨rfl, rfl⟩ := hwalk.unique hwalk'
    rw [commitIfRecorded_run] at hcommit
    simpa using hcommit
  · intro h
    cases h
    exact ⟨v, t, hwalk, commitIfRecorded_run _ _, rfl⟩

-- ---------------------------------------------------------------------------
-- The plain scan
-- ---------------------------------------------------------------------------

def plainMatches (job : ScanJob) (db : Database) : List Instance :=
  db.instances.rows.filter (job.query db)

/-- The matches on all pages that have no unresolved alert of the scan's type. -/
def lacking (job : ScanJob) (db : Database) : List Instance :=
  (plainMatches job db).filter fun i => !hasUnresolved db.alerts job.alertType i.id

structure Opens (job : ScanJob) (i : Instance) (a : Alert) : Prop where
  instanceId : a.instanceId = i.id
  alertType : a.alertType = job.alertType
  message : a.message = job.message i
  isResolved : a.isResolved = false
  resolvedAt : a.resolvedAt = none

/-- What the plain scan answers and writes. -/
structure ScansPlainly (job : ScanJob) (page size : ℕ) (s : Session) (p : Page Instance)
    (s' : Session) : Prop where
  byId : (plainMatches job s.view).Pairwise fun i j => i.id < j.id
  items : p.items = ((plainMatches job s.view).take (page * size)).drop ((page - 1) * size)
  total : p.total = (plainMatches job s.view).length
  totalPages : p.totalPages = ⌈(p.total / size : ℚ)⌉₊
  opened : ∃ added, List.Forall₂ (Opens job) (lacking job s.view) added ∧
    s'.view.alerts.rows.Perm (s.view.alerts.rows ++ added)
  members : s'.view.members = s.view.members
  clients : s'.view.clients = s.view.clients
  instances : s'.view.instances = s.view.instances
  committed : s'.committed = if (lacking job s.view).isEmpty then s.committed else s'.view

theorem scanMatches_plain {job : ScanJob} {db : Database} (hids : ∀ i ∈ db.instances, 0 < i.id) :
    scanMatches job db = plainMatches job db := by
  refine List.filter_congr fun i hi => ?_
  rw [decide_eq_true (hids i hi), Bool.and_true]

theorem missingAlerts_plain (job : ScanJob) (db : Database) :
    missingAlerts job db.alerts (plainMatches job db) = (lacking job db).map fun i =>
      { instanceId := i.id, alertType := job.alertType, message := job.message i } := rfl

theorem lastPage_eq_ceil (total : ℕ) {size : ℕ} (hsize : 1 ≤ size) :
    (total + size - 1) / size = ⌈(total / size : ℚ)⌉₊ := by
  refine eq_of_forall_ge_iff fun n => ?_
  rw [Nat.ceil_le, div_le_iff₀ (by exact_mod_cast hsize), Nat.div_le_iff_le_mul_add_pred hsize]
  rw [← Nat.cast_mul, Nat.cast_le, Nat.mul_comm]
  omega

theorem scanned_batchSize (env : Env) (job : ScanJob) (s : Session) (n : ℕ) (hn : 0 < n) :
    s.scanned { env with idBatchSize := n, idBatchSize_pos := hn } job = s.scanned env job := by
  have hadd (tick : ℕ) (as : List NewAlert) (t : Table Alert) :
      addAlerts { env with idBatchSize := n, idBatchSize_pos := hn } tick as t =
        addAlerts env tick as t := by
    induction as generalizing tick t with
    | nil => rfl
    | cons a as ih => exact ih _ _
  simp only [Session.scanned, Session.addAlerts, hadd]

theorem scanned_plain (env : Env) (job : ScanJob) {page size : ℕ} (hpage : 1 ≤ page)
    (hsize : 1 ≤ size) (s : Session) (hids : ∀ i ∈ s.view.instances, 0 < i.id) :
    ScansPlainly job page size s (pageOf (scanMatches job s.view) page size)
      (s.scanned env job) := by
  have hview : (s.scanned env job).view =
      (s.addAlerts env (missingAlerts job s.view.alerts (plainMatches job s.view))).view := by
    simp only [Session.scanned, scanMatches_plain hids]
    split <;> rfl
  rw [scanMatches_plain hids]
  constructor
  case byId => exact s.view.instances.sorted.filter _
  case items =>
    have hend : page * size = (page - 1) * size + size := by
      rw [← Nat.succ_mul, Nat.succ_eq_add_one, Nat.sub_add_cancel hpage]
    simp only [pageOf, window, hend, List.drop_take, Nat.add_sub_cancel_left]
  case total => rfl
  case totalPages => exact lastPage_eq_ceil _ hsize
  case opened =>
    obtain ⟨added, hrows, hperm⟩ := addAlerts_perm env s.tick
      (missingAlerts job s.view.alerts (plainMatches job s.view)) s.view.alerts
    rw [missingAlerts_plain, List.forall₂_map_left_iff] at hrows
    refine ⟨added, hrows.imp ?_, hview ▸ hperm⟩
    rintro i _ ⟨id, k, rfl⟩
    exact ⟨rfl, rfl, rfl, rfl, rfl⟩
  case members => rw [hview]; rfl
  case clients => rw [hview]; rfl
  case instances => rw [hview]; rfl
  case committed =>
    simp only [Session.scanned, scanMatches_plain hids, missingAlerts_plain, List.isEmpty_map]
    split <;> rfl

/-- The scan ends and is the plain scan. A commit that writes nothing would
show in `committed`, since the session may hold other uncommitted rows. -/
theorem scan_plain (env : Env) (job : ScanJob) {page size : ℕ} (hpage : 1 ≤ page)
    (hsize : 1 ≤ size) (s : Session) (hids : ∀ i ∈ s.view.instances, 0 < i.id) :
    ∃ p s', (scan env job page size).run s = (.ok p, s') ∧ ScanEnds env job page size s p s' ∧
      ScansPlainly job page size s p s' ∧
      ∀ n (hn : 0 < n), (scan { env with idBatchSize := n, idBatchSize_pos := hn } job page
        size).run s = (.ok p, s') := by
  refine ⟨_, _, scan_run env job page size s, ?_, scanned_plain env job hpage hsize s hids, ?_⟩
  · exact (scan_ends env job page size s _ _).mpr (scan_run env job page size s)
  · intro n hn
    rw [scan_run, scanned_batchSize]

/-- The seeded instances, in batches of one. -/
theorem scan_plain_seeded :
    ∃ p s', (scan { Env.every 1 with idBatchSize := 1, idBatchSize_pos := by decide }
        (errorsJob none) 2 1).run (seeded (.every 1)).session = (.ok p, s') ∧
      ScansPlainly (errorsJob none) 2 1 (seeded (.every 1)).session p s' := by
  obtain ⟨p, s', hrun, -, hplain, -⟩ :=
    scan_plain { Env.every 1 with idBatchSize := 1, idBatchSize_pos := by decide } (errorsJob none)
      (show 1 ≤ 2 by decide) (show 1 ≤ 1 by decide) (seeded (.every 1)).session (by decide +kernel)
  exact ⟨p, s', hrun, hplain⟩

end CloudMonitor
