import CloudMonitor.Services.Monitor
import Mathlib.Data.List.Forall2

/-!
# What a scan returns and writes

`scan_run`: a scan returns the requested window of all matching instances in
id order with their number, and adds one alert for every match, on every
page, that has no unresolved alert of the scan's type; it commits exactly when
it added one. The batch size does not appear in the result.
-/

namespace CloudMonitor

open Fallible

def addAlerts (env : Env) : ℕ → List NewAlert → Table Alert → Table Alert
  | _, [], t => t
  | tick, a :: as, t =>
    addAlerts env (tick + 1) as (t.insertNew (env.newId tick) (env.newId_fresh tick)
      (fun i => a.row i (env.clock tick)) (fun i => a.row_id i _))

def Session.addAlerts (env : Env) (new : List NewAlert) (s : Session) : Session :=
  { s with
    view := { s.view with alerts := CloudMonitor.addAlerts env s.tick new s.view.alerts }
    tick := s.tick + new.length }

def hasUnresolved (alerts : Table Alert) (alertType : AlertType) (instanceId : ℤ) : Bool :=
  alerts.rows.any (fun a => a.instanceId == instanceId && a.alertType == alertType && !a.isResolved)

def missingAlerts (job : ScanJob) (alerts : Table Alert) (instances : List Instance) :
    List NewAlert :=
  (instances.filter (fun i => !hasUnresolved alerts job.alertType i.id)).map fun i =>
    { instanceId := i.id, alertType := job.alertType, message := job.message i }

def matchesFrom (job : ScanJob) (db : Database) (lastId : ℤ) : List Instance :=
  db.instances.rows.filter (fun i => job.query db i && lastId < i.id)

def scanMatches (job : ScanJob) (db : Database) : List Instance := matchesFrom job db 0

-- ---------------------------------------------------------------------------
-- Adding alerts
-- ---------------------------------------------------------------------------

theorem hasUnresolved_iff {alerts : Table Alert} {ty : AlertType} {id : ℤ} :
    hasUnresolved alerts ty id = true ↔ ∃ a ∈ alerts, a.instanceId = id ∧ a.alertType = ty ∧
      a.isResolved = false := by
  simp [hasUnresolved, Table.mem_def, and_assoc]

theorem addAlerts_append (env : Env) (tick : ℕ) (as bs : List NewAlert) (t : Table Alert) :
    addAlerts env tick (as ++ bs) t =
      addAlerts env (tick + as.length) bs (addAlerts env tick as t) := by
  induction as generalizing tick t with
  | nil => rfl
  | cons a as ih =>
    simp only [List.cons_append, addAlerts, ih, List.length_cons]
    congr 1
    omega

theorem mem_addAlerts {env : Env} {tick : ℕ} {as : List NewAlert} {t : Table Alert} {x : Alert}
    (h : x ∈ addAlerts env tick as t) :
    x ∈ t ∨ ∃ a ∈ as, ∃ k, tick ≤ k ∧ k < tick + as.length ∧ x = a.row x.id (env.clock k) := by
  induction as generalizing tick t with
  | nil => exact .inl h
  | cons a as ih =>
    rcases ih h with h | ⟨b, hb, k, hk, hk', hx⟩
    · rw [Table.mem_insertNew] at h
      rcases h with rfl | h
      · exact .inr ⟨a, by simp, tick, le_rfl, by simp, rfl⟩
      · exact .inl h
    · exact .inr ⟨b, by simp [hb], k, by omega, by simp only [List.length_cons]; omega, hx⟩

theorem mem_addAlerts_of_mem {env : Env} {tick : ℕ} {as : List NewAlert} {t : Table Alert}
    {x : Alert} (h : x ∈ t) : x ∈ addAlerts env tick as t := by
  induction as generalizing tick t with
  | nil => exact h
  | cons a as ih => exact ih (Table.mem_insertNew.mpr (.inr h))

theorem exists_mem_addAlerts (env : Env) (tick : ℕ) (t : Table Alert) {as : List NewAlert}
    {a : NewAlert}
    (h : a ∈ as) : ∃ id k, a.row id (env.clock k) ∈ addAlerts env tick as t ∧ id ∉ t.ids := by
  induction as generalizing tick t with
  | nil => simp at h
  | cons b as ih =>
    rw [addAlerts]
    rcases List.mem_cons.mp h with rfl | h
    · exact ⟨env.newId tick t.ids, tick, mem_addAlerts_of_mem (Table.mem_insertNew.mpr (.inl rfl)),
        env.newId_fresh tick t.ids⟩
    · obtain ⟨id, k, hmem, hid⟩ := ih (tick + 1) _ h
      refine ⟨id, k, hmem, fun hold => hid ?_⟩
      obtain ⟨x, hx, hxid⟩ := Table.mem_ids.mp hold
      exact Table.mem_ids.mpr ⟨x, Table.mem_insertNew.mpr (.inr hx), hxid⟩

theorem addAlerts_perm (env : Env) (tick : ℕ) (as : List NewAlert) (t : Table Alert) :
    ∃ added, List.Forall₂ (fun a x => ∃ id k, x = a.row id (env.clock k)) as added ∧
      (addAlerts env tick as t).rows.Perm (t.rows ++ added) := by
  induction as generalizing tick t with
  | nil => exact ⟨[], .nil, by simp [addAlerts]⟩
  | cons a as ih =>
    obtain ⟨added, hrows, hperm⟩ := ih (tick + 1) (t.insertNew (env.newId tick)
      (env.newId_fresh tick) (fun i => a.row i (env.clock tick)) (fun i => a.row_id i _))
    refine ⟨a.row (env.newId tick t.ids) (env.clock tick) :: added, .cons ⟨_, tick, rfl⟩ hrows,
      hperm.trans ?_⟩
    exact ((Table.insert_perm _).append_right added).trans List.perm_middle.symm

theorem hasUnresolved_addAlerts {env : Env} {tick : ℕ} {as : List NewAlert} {t : Table Alert}
    {ty : AlertType} {id : ℤ} (h : ∀ a ∈ as, a.alertType = ty → a.instanceId ≠ id) :
    hasUnresolved (addAlerts env tick as t) ty id = hasUnresolved t ty id := by
  rw [Bool.eq_iff_iff, hasUnresolved_iff, hasUnresolved_iff]
  constructor
  · rintro ⟨x, hx, hid, hty, hres⟩
    rcases mem_addAlerts hx with hx | ⟨a, ha, _, _, _, hrow⟩
    · exact ⟨x, hx, hid, hty, hres⟩
    · exact absurd ((congrArg Alert.instanceId hrow).symm.trans hid)
        (h a ha ((congrArg Alert.alertType hrow).symm.trans hty))
  · rintro ⟨x, hx, hrest⟩
    exact ⟨x, mem_addAlerts_of_mem hx, hrest⟩

theorem Session.addAlerts_nil (env : Env) (s : Session) : s.addAlerts env [] = s := rfl

theorem Session.addAlerts_append (env : Env) (as bs : List NewAlert) (s : Session) :
    (s.addAlerts env as).addAlerts env bs = s.addAlerts env (as ++ bs) := by
  simp only [Session.addAlerts, CloudMonitor.addAlerts_append, List.length_append, Nat.add_assoc]

theorem insertAlert_run (env : Env) (a : NewAlert) (s : Session) :
    (insertAlert env a).run s = (.ok (), s.addAlerts env [a]) := rfl

theorem each_insertAlert_run (env : Env) (new : List NewAlert) (s : Session) :
    (each (insertAlert env) new).run s = (.ok (), s.addAlerts env new) := by
  induction new generalizing s with
  | nil => rfl
  | cons a as ih =>
    simp only [each, run_bind, insertAlert_run, ih, Session.addAlerts_append, List.singleton_append]

-- ---------------------------------------------------------------------------
-- Recording one batch
-- ---------------------------------------------------------------------------

theorem mem_instancesWithUnresolvedAlert {alerts : Table Alert} {ids : List ℤ} {ty : AlertType}
    {id : ℤ} (h : id ∈ ids) :
    id ∈ instancesWithUnresolvedAlert alerts ids ty ↔ hasUnresolved alerts ty id = true := by
  simp only [instancesWithUnresolvedAlert, hasUnresolved_iff, List.mem_map, List.mem_filter,
    Table.mem_def, Bool.and_eq_true, List.contains_iff_mem, beq_iff_eq, Bool.not_eq_eq_eq_not,
    Bool.not_true]
  constructor
  · rintro ⟨a, ⟨ha, ⟨-, hty⟩, hres⟩, rfl⟩
    exact ⟨a, ha, rfl, hty, hres⟩
  · rintro ⟨a, ha, rfl, hty, hres⟩
    exact ⟨a, ⟨ha, ⟨h, hty⟩, hres⟩, rfl⟩

/-- The probe of a batch finds exactly the instances that lack no alert. -/
theorem instancesWithUnresolvedAlert_subset {alerts : Table Alert} {ids : List ℤ} {ty : AlertType}
    {id : ℤ} (h : id ∈ instancesWithUnresolvedAlert alerts ids ty) : id ∈ ids := by
  simp only [instancesWithUnresolvedAlert, List.mem_map, List.mem_filter, Bool.and_eq_true,
    List.contains_iff_mem] at h
  obtain ⟨a, ⟨-, ⟨ha, -⟩, -⟩, rfl⟩ := h
  exact ha

theorem newAlerts_probe (job : ScanJob) (alerts : Table Alert) (batch : List Instance) :
    newAlerts job (instancesWithUnresolvedAlert alerts (batch.map Instance.id) job.alertType)
      batch =
      missingAlerts job alerts batch := by
  unfold newAlerts missingAlerts
  congr 1
  refine List.filter_congr fun i hi => ?_
  have h : i.id ∈ instancesWithUnresolvedAlert alerts (batch.map Instance.id) job.alertType ↔
      hasUnresolved alerts job.alertType i.id = true :=
    mem_instancesWithUnresolvedAlert (List.mem_map_of_mem hi)
  rw [Bool.eq_iff_iff, Bool.not_eq_true', Bool.not_eq_true', ← Bool.not_eq_true, ← Bool.not_eq_true,
    List.contains_iff_mem, h]

theorem recordAlerts_run (env : Env) (job : ScanJob) (batch : List Instance) (s : Session) :
    (recordAlerts env job batch).run s =
      (.ok (!(missingAlerts job s.view.alerts batch).isEmpty),
        s.addAlerts env (missingAlerts job s.view.alerts batch)) := by
  unfold recordAlerts
  cases batch with
  | nil => rfl
  | cons i rest =>
    simp only [List.isEmpty_cons, Bool.false_eq_true, ↓reduceIte, run_bind, view_run,
      newAlerts_probe]
    rw [run_ite]
    split
    · next h => rw [List.isEmpty_iff.mp h]; rfl
    · next h =>
      rw [Bool.not_eq_true] at h
      simp only [run_bind, each_insertAlert_run, run_pure, h, Bool.not_false]

theorem missingAlerts_append (job : ScanJob) (alerts : Table Alert) (xs ys : List Instance) :
    missingAlerts job alerts (xs ++ ys) = missingAlerts job alerts xs ++
      missingAlerts job alerts ys := by
  simp [missingAlerts]

theorem missingAlerts_instanceId {a : NewAlert} (h : a ∈ missingAlerts job alerts xs) :
    ∃ i ∈ xs, a.instanceId = i.id ∧ hasUnresolved alerts job.alertType i.id = false ∧
      a.alertType = job.alertType := by
  simp only [missingAlerts, List.mem_map, List.mem_filter, Bool.not_eq_eq_eq_not,
    Bool.not_true] at h
  obtain ⟨i, ⟨hi, hun⟩, rfl⟩ := h
  exact ⟨i, hi, rfl, hun, rfl⟩

/-- What a batch still needs does not depend on the batches before it. -/
theorem missingAlerts_addAlerts {env : Env} {tick : ℕ} {job : ScanJob} {alerts : Table Alert}
    {xs ys : List Instance} (hd : ∀ x ∈ xs, ∀ y ∈ ys, x.id ≠ y.id) :
    missingAlerts job (addAlerts env tick (missingAlerts job alerts xs) alerts) ys =
      missingAlerts job alerts ys := by
  unfold missingAlerts
  congr 1
  refine List.filter_congr fun y hy => ?_
  rw [hasUnresolved_addAlerts]
  intro a ha _
  obtain ⟨x, hx, h, -⟩ := missingAlerts_instanceId ha
  exact h ▸ hd x hx y hy

-- ---------------------------------------------------------------------------
-- The window
-- ---------------------------------------------------------------------------

theorem visitAll_append (page size : ℕ) (v : Walk) (xs ys : List Instance) :
    v.visitAll page size (xs ++ ys) = (v.visitAll page size xs).visitAll page size ys :=
  List.foldl_append

theorem visitAll_with (page size : ℕ) (v : Walk) (r : Bool) (l : ℤ) (xs : List Instance) :
    ({ v with recorded := r, lastId := l } : Walk).visitAll page size xs =
      { v.visitAll page size xs with recorded := r, lastId := l } := by
  induction xs generalizing v with
  | nil => rfl
  | cons x xs ih => exact ih (v.visit page size x)

theorem visitAll_total (page size : ℕ) (v : Walk) (xs : List Instance) :
    (v.visitAll page size xs).total = v.total + xs.length := by
  induction xs generalizing v with
  | nil => rfl
  | cons x xs ih =>
    refine (ih (v.visit page size x)).trans ?_
    simp only [Walk.visit, List.length_cons]
    omega

theorem visitAll_items (page size : ℕ) (v : Walk) (xs : List Instance) :
    (v.visitAll page size xs).items =
      v.items ++ (xs.take ((page - 1) * size + size - v.total)).drop
        ((page - 1) * size - v.total) := by
  induction xs generalizing v with
  | nil => simp [Walk.visitAll]
  | cons x xs ih =>
    refine (ih (v.visit page size x)).trans ?_
    generalize hlo : (page - 1) * size = lo
    simp only [Walk.visit, hlo]
    split
    · next h =>
      rw [show lo + size - v.total = (lo + size - (v.total + 1)) + 1 by omega,
        show lo - v.total = 0 by omega, show lo - (v.total + 1) = 0 by omega]
      simp
    · next h =>
      by_cases hlt : v.total < lo
      · rw [show lo + size - v.total = (lo + size - (v.total + 1)) + 1 by omega,
          show lo - v.total = (lo - (v.total + 1)) + 1 by omega]
        simp
      · rw [show lo + size - v.total = 0 by omega, show lo + size - (v.total + 1) = 0 by omega]
        simp

theorem visitAll_start (page size : ℕ) (xs : List Instance) :
    (({} : Walk).visitAll page size xs).items = window xs page size := by
  rw [visitAll_items, window, List.drop_take]
  simp

-- ---------------------------------------------------------------------------
-- The walk
-- ---------------------------------------------------------------------------

/-- In a list sorted by a key, the entries above the last of a prefix are the
rest. -/
theorem filter_getLast_take {f : α → ℤ} {xs : List α} (hs : xs.Pairwise (fun a b => f a < f b))
    {n : ℕ} {x : α} (hx : (xs.take n).getLast? = some x) :
    xs.filter (fun y => f x < f y) = xs.drop n := by
  have hmem : x ∈ xs.take n := List.mem_of_getLast? hx
  obtain ⟨ys, hys⟩ := List.getLast?_eq_some_iff.mp hx
  have hsplit : (ys ++ [x] ++ xs.drop n).Pairwise (fun a b => f a < f b) := by
    rw [← hys, List.take_append_drop]; exact hs
  obtain ⟨hpre, -, hpost⟩ := List.pairwise_append.mp hsplit
  have hlow : (xs.take n).filter (fun y => decide (f x < f y)) = [] := by
    rw [List.filter_eq_nil_iff, hys]
    intro y hy
    rcases List.mem_append.mp hy with hy | hy
    · have := (List.pairwise_append.mp hpre).2.2 y hy x (by simp)
      simp only [decide_eq_true_eq]
      omega
    · simp [List.mem_singleton.mp hy]
  have hhigh : (xs.drop n).filter (fun y => decide (f x < f y)) = xs.drop n := by
    rw [List.filter_eq_self]
    intro y hy
    simpa using hpost x (by simp) y hy
  calc xs.filter (fun y => decide (f x < f y))
      = (xs.take n ++ xs.drop n).filter (fun y => decide (f x < f y)) := by
        rw [List.take_append_drop]
    _ = xs.drop n := by rw [List.filter_append, hlow, hhigh, List.nil_append]

theorem matchesFrom_sorted (job : ScanJob) (db : Database) (lastId : ℤ) :
    (matchesFrom job db lastId).Pairwise (fun a b => a.id < b.id) := db.instances.sorted.filter _

theorem matchesFrom_alerts (job : ScanJob) (s : Session) (env : Env) (new : List NewAlert)
    (lastId : ℤ) :
    matchesFrom job (s.addAlerts env new).view lastId = matchesFrom job s.view lastId := rfl

theorem matchesFrom_next {job : ScanJob} {db : Database} {lastId : ℤ} {n : ℕ} {x : Instance}
    (hx : ((matchesFrom job db lastId).take n).getLast? = some x) :
    matchesFrom job db x.id = (matchesFrom job db lastId).drop n := by
  rw [← filter_getLast_take (matchesFrom_sorted job db lastId) hx, matchesFrom, matchesFrom,
    List.filter_filter]
  have hlt : lastId < x.id := by
    have h := List.mem_of_mem_take (List.mem_of_getLast? hx)
    have h' := (List.mem_filter.mp h).2
    rw [Bool.and_eq_true, decide_eq_true_eq] at h'
    exact h'.2
  refine List.filter_congr fun i _ => ?_
  rw [Bool.eq_iff_iff]
  simp only [Bool.and_eq_true, decide_eq_true_eq]
  constructor
  · rintro ⟨hq, h⟩; exact ⟨h, hq, by omega⟩
  · rintro ⟨h, hq, -⟩; exact ⟨hq, h⟩

theorem nextBatch_eq (env : Env) (job : ScanJob) (lastId : ℤ) (db : Database) :
    nextBatch env job lastId db = (matchesFrom job db lastId).take env.idBatchSize := rfl

/-- A batch with an instance in it leaves the matches behind it. -/
theorem matchesFrom_nextBatch (env : Env) (job : ScanJob) (page size : ℕ) (v : Walk) (db : Database)
    (recorded : Bool) (hne : nextBatch env job v.lastId db ≠ []) :
    matchesFrom job db (v.next page size (nextBatch env job v.lastId db) recorded).lastId =
      (matchesFrom job db v.lastId).drop env.idBatchSize := by
  obtain ⟨x, hx⟩ := Option.ne_none_iff_exists'.mp (mt List.getLast?_eq_none_iff.mp hne)
  have hlast : (v.next page size (nextBatch env job v.lastId db) recorded).lastId = x.id := by
    simp only [Walk.next, hx, Option.map_some, Option.getD_some]
  rw [hlast, matchesFrom_next (nextBatch_eq env job v.lastId db ▸ hx)]

/-- The alerts added for a batch take none from the instances after it. -/
theorem missingAlerts_drop (env : Env) (job : ScanJob) (s : Session) {ms : List Instance}
    (hsorted : ms.Pairwise fun a b => a.id < b.id) (n : ℕ) :
    missingAlerts job (s.addAlerts env (missingAlerts job s.view.alerts (ms.take n))).view.alerts
        (ms.drop n) =
      missingAlerts job s.view.alerts (ms.drop n) := by
  refine missingAlerts_addAlerts fun a ha b hb => ?_
  rw [← List.take_append_drop n ms] at hsorted
  exact Int.ne_of_lt ((List.pairwise_append.mp hsorted).2.2 a ha b hb)

theorem missingAlerts_isEmpty (job : ScanJob) (alerts : Table Alert) (ms : List Instance) (n : ℕ) :
    (!(missingAlerts job alerts (ms.take n)).isEmpty ||
        !(missingAlerts job alerts (ms.drop n)).isEmpty) =
      !(missingAlerts job alerts ms).isEmpty := by
  conv_rhs => rw [← List.take_append_drop n ms, missingAlerts_append]
  cases missingAlerts job alerts (ms.take n) <;> rfl

/-- The loop visits every remaining match and adds every alert they lack.
Induction on the fuel; a full batch leaves strictly fewer matches. -/
theorem scanLoop_run (env : Env) (job : ScanJob) (page size fuel : ℕ) (v : Walk) (s : Session)
    (hfuel : (matchesFrom job s.view v.lastId).length < fuel) :
    ∃ lastId, (scanLoop env job page size fuel v).run s =
      (.ok { v.visitAll page size (matchesFrom job s.view v.lastId) with
          recorded := v.recorded ||
            !(missingAlerts job s.view.alerts (matchesFrom job s.view v.lastId)).isEmpty
          lastId := lastId },
        s.addAlerts env (missingAlerts job s.view.alerts (matchesFrom job s.view v.lastId))) := by
  induction fuel generalizing v s with
  | zero => omega
  | succ fuel ih =>
    have hpos := env.idBatchSize_pos
    have hrest := matchesFrom_nextBatch env job page size v s.view
    have hsorted := matchesFrom_sorted job s.view v.lastId
    simp only [nextBatch_eq] at hrest
    generalize hms : matchesFrom job s.view v.lastId = ms at hfuel hrest hsorted ⊢
    simp only [scanLoop, run_bind, view_run, nextBatch_eq, hms]
    rw [run_ite]
    split
    · next hnil =>
      have hms0 : ms = [] := by
        rw [List.isEmpty_iff, List.take_eq_nil_iff] at hnil
        exact hnil.resolve_left (by omega)
      subst hms0
      exact ⟨v.lastId, by simp [Walk.visitAll, missingAlerts, Session.addAlerts_nil]⟩
    · next hne =>
      rw [List.isEmpty_iff] at hne
      simp only [run_bind, recordAlerts_run]
      rw [run_ite]
      split
      · next hshort =>
        -- a short batch was the last one
        have hall : ms.take env.idBatchSize = ms := by
          rw [List.length_take] at hshort
          exact List.take_of_length_le (by omega)
        exact ⟨_, by simp only [hall, run_pure, Walk.next]; rfl⟩
      · next hfull =>
        obtain ⟨lastId, h⟩ := ih (v.next page size (ms.take env.idBatchSize)
          (!(missingAlerts job s.view.alerts (ms.take env.idBatchSize)).isEmpty))
          (s.addAlerts env (missingAlerts job s.view.alerts (ms.take env.idBatchSize))) (by
            rw [matchesFrom_alerts, hrest _ hne, List.length_drop]
            rw [List.length_take] at hfull
            omega)
        rw [matchesFrom_alerts, hrest _ hne] at h
        refine ⟨lastId, h.trans ?_⟩
        rw [missingAlerts_drop env job s hsorted, Session.addAlerts_append, ← missingAlerts_append,
          List.take_append_drop]
        simp only [Walk.next, visitAll_with, ← visitAll_append, List.take_append_drop, Bool.or_assoc,
          missingAlerts_isEmpty]

theorem commitIfRecorded_run (recorded : Bool) (s : Session) :
    (commitIfRecorded recorded).run s =
      (.ok (), if recorded then { s with committed := s.view } else s) := by
  cases recorded <;> rfl

/-- The session after a scan: committed exactly when an alert was added. -/
def Session.scanned (env : Env) (job : ScanJob) (s : Session) : Session :=
  let s' := s.addAlerts env (missingAlerts job s.view.alerts (scanMatches job s.view))
  if (missingAlerts job s.view.alerts (scanMatches job s.view)).isEmpty then s'
  else { s' with committed := s'.view }

theorem scan_run (env : Env) (job : ScanJob) (page size : ℕ) (s : Session) :
    (scan env job page size).run s =
      (.ok (pageOf (scanMatches job s.view) page size), s.scanned env job) := by
  obtain ⟨lastId, h⟩ := scanLoop_run env job page size (s.view.instances.rows.length + 1) {} s
    (Nat.lt_succ_of_le (List.length_filter_le _ _))
  simp only [scan, run_bind, view_run, h]
  simp only [commitIfRecorded_run, Session.scanned, visitAll_total, visitAll_start, scanMatches,
    run_pure, Nat.zero_add, Bool.false_or]
  by_cases hnone : (missingAlerts job s.view.alerts (matchesFrom job s.view 0)).isEmpty = true
  · simp [hnone, pageOf, window]
  · simp [hnone, pageOf, window]

theorem checkLongStopped_run (env : Env) (clientIds : Option Select) (page size : ℕ) (s : Session) :
    (checkLongStopped env clientIds page size).run s =
      (.ok (pageOf (scanMatches (longStoppedJob env clientIds (env.clock s.tick)) s.view) page
        size),
        ({ s with tick := s.tick + 1 } : Session).scanned env
          (longStoppedJob env clientIds (env.clock s.tick))) := by
  simp only [checkLongStopped, run_bind, utcnow_run, scan_run]

end CloudMonitor
