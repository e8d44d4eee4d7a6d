import CloudMonitor.Integrity
import CloudMonitor.Lib.Schedule

/-!
# Concurrent scans

Any number of scans, each a sequence of atomic statements: read the next
batch, probe which of its instances have an unresolved alert, insert the
alerts the others lack, commit. A statement reads the committed rows and the
session's own, and others see a session's rows when it has committed. Alone,
the statements are the sequential `scan` (`ScanSystem.alone`).
-/

namespace CloudMonitor

open Fallible

/-- Where a scan is, with what it holds in its local variables. -/
inductive ScanPhase
  | reading (v : Walk)
  | probing (v : Walk) (batch : List Instance)
  | recording (v : Walk) (batch : List Instance) (existing : List ℤ)
  | finishing (v : Walk)
  | finished (page : Page Instance)
  deriving DecidableEq

def ScanPhase.Idle : ScanPhase → Prop
  | .reading v => v = {}
  | .finished _ => True
  | _ => False

instance : DecidablePred ScanPhase.Idle
  | .reading v => inferInstanceAs (Decidable (v = {}))
  | .finished _ => isTrue trivial
  | .probing .. | .recording .. | .finishing _ => isFalse id

/-- The next statement is the insertion. -/
def ScanPhase.Inserts : ScanPhase → Prop
  | .recording .. => True
  | _ => False

instance : DecidablePred ScanPhase.Inserts
  | .recording .. => isTrue trivial
  | .reading _ | .probing .. | .finishing _ | .finished _ => isFalse id

structure ScanRequest where
  job : ScanJob
  page : ℕ
  size : ℕ

/-- The rows of all sessions, with the session an uncommitted alert belongs
to, and the scans. -/
structure ScanSystem (ι : Type) where
  db : Database
  owner : ℤ → Option ι
  tick : ℕ
  scan : ι → ScanPhase

namespace ScanSystem

section
variable {ι : Type} [DecidableEq ι]

def start (db : Database) (tick : ℕ) : ScanSystem ι where
  db := db
  owner _ := none
  tick := tick
  scan _ := .reading {}

def visible (σ : ScanSystem ι) (i : ι) : Table Alert :=
  σ.db.alerts.delete (fun a => σ.owner a.id ≠ none ∧ σ.owner a.id ≠ some i)

def committed (σ : ScanSystem ι) : Table Alert := σ.db.alerts.delete (fun a => σ.owner a.id ≠ none)

def goto (σ : ScanSystem ι) (i : ι) (phase : ScanPhase) : ScanSystem ι :=
  { σ with scan := Function.update σ.scan i phase }

def insert (env : Env) (σ : ScanSystem ι) (i : ι) (new : List NewAlert) : ScanSystem ι :=
  let s := ((each (insertAlert env) new).run { committed := σ.db, view := σ.db, tick := σ.tick }).2
  { σ with
    db := s.view
    owner := fun id => if id ∈ s.view.alerts.ids ∧ id ∉ σ.db.alerts.ids then some i else σ.owner id
    tick := s.tick }

def commit (σ : ScanSystem ι) (i : ι) : ScanSystem ι :=
  { σ with owner := fun id => if σ.owner id = some i then none else σ.owner id }

def step (env : Env) (requests : ι → ScanRequest) (σ : ScanSystem ι) (i : ι) : ScanSystem ι :=
  let r := requests i
  match σ.scan i with
  | .reading v =>
    let batch := nextBatch env r.job v.lastId σ.db
    σ.goto i (if batch.isEmpty then .finishing v else .probing v batch)
  | .probing v batch =>
    let existing :=
      instancesWithUnresolvedAlert (σ.visible i) (batch.map Instance.id) r.job.alertType
    σ.goto i (.recording v batch existing)
  | .recording v batch existing =>
    let new := newAlerts r.job existing batch
    let v := v.next r.page r.size batch (!new.isEmpty)
    (σ.insert env i new).goto i
      (if batch.length < env.idBatchSize then .finishing v else .reading v)
  | .finishing v =>
    let totalPages := (v.total + r.size - 1) / r.size
    let page := { items := v.items, total := v.total, totalPages := totalPages }
    (if v.recorded then σ.commit i else σ).goto i (.finished page)
  | .finished _ => σ

/-- The alerts the next statement of scan `i` inserts. -/
def nextInsert (requests : ι → ScanRequest) (σ : ScanSystem ι) (i : ι) : List NewAlert :=
  match σ.scan i with
  | .recording _ batch existing => newAlerts (requests i).job existing batch
  | _ => []

/-- The uncommitted alerts of the other scans. -/
def hidden (σ : ScanSystem ι) (i : ι) : Table Alert :=
  σ.db.alerts.delete (fun a => σ.owner a.id = none ∨ σ.owner a.id = some i)

/-- Until scan `i` inserts, no other scan inserts an alert of its type for an
instance of its batch. -/
def Unrivalled (env : Env) (requests : ι → ScanRequest) (i : ι) (batch : List Instance) :
    ScanSystem ι → List ι → Prop :=
  While (step env requests) (fun τ => (τ.scan i).Inserts)
    (fun τ j => j ≠ i → ∀ a ∈ nextInsert requests τ j,
      a.alertType = (requests i).job.alertType → a.instanceId ∉ batch.map Instance.id)

/-- If the statement of scan `i` is its probe, no other scan holds uncommitted
what the probe looks for, and none inserts it before scan `i` does. -/
def Undisturbed (env : Env) (requests : ι → ScanRequest) (σ : ScanSystem ι) (i : ι)
    (rest : List ι) : Prop :=
  match σ.scan i with
  | .probing _ batch =>
    (∀ x ∈ batch, hasUnresolved (σ.hidden i) (requests i).job.alertType x.id = false) ∧
      Unrivalled env requests i batch (σ.step env requests i) rest
  | _ => True

end

-- ---------------------------------------------------------------------------
-- What every statement keeps
-- ---------------------------------------------------------------------------

def phaseBatch : ScanPhase → List Instance
  | .probing _ batch | .recording _ batch _ => batch
  | _ => []

def Pending : ScanPhase → Prop
  | .reading v | .probing v _ | .recording v _ _ | .finishing v => v.recorded = true
  | .finished _ => False

structure Inv (σ : ScanSystem ι) : Prop where
  sorted : ∀ i, (phaseBatch (σ.scan i)).Pairwise (fun a b => a.id < b.id)
  owned : ∀ a ∈ σ.db.alerts, ∀ i, σ.owner a.id = some i → Pending (σ.scan i)

section
variable {ι : Type} {σ : ScanSystem ι}

theorem inv_start (db : Database) (tick : ℕ) : Inv (start db tick : ScanSystem ι) where
  sorted _ := .nil
  owned a _ i h := by simp [start] at h

theorem Inv.committed (h : Inv σ) (hdone : ∀ i, (σ.scan i).Idle) :
    σ.committed = σ.db.alerts := by
  refine Table.ext_mem fun a => ?_
  rw [ScanSystem.committed, Table.mem_delete]
  refine and_iff_left_of_imp fun ha => ?_
  cases ho : σ.owner a.id with
  | none => simp
  | some i =>
    have hpending := h.owned a ha i ho
    have hidle := hdone i
    cases hi : σ.scan i with
    | reading v =>
      rw [hi] at hpending hidle
      obtain rfl : v = {} := hidle
      simp [Pending] at hpending
    | finished => simp [hi, Pending] at hpending
    | probing | recording | finishing => simp [hi, ScanPhase.Idle] at hidle

variable {env : Env} {requests : ι → ScanRequest} {i : ι} {new : List NewAlert}

theorem insert_alerts : (σ.insert env i new).db.alerts = addAlerts env σ.tick new σ.db.alerts := by
  simp [insert, each_insertAlert_run, Session.addAlerts]

theorem insert_instances : (σ.insert env i new).db.instances = σ.db.instances := by
  simp [insert, each_insertAlert_run, Session.addAlerts]

theorem insert_owner {id : ℤ} :
    (σ.insert env i new).owner id =
      if id ∈ (addAlerts env σ.tick new σ.db.alerts).ids ∧ id ∉ σ.db.alerts.ids then some i
        else σ.owner id := by
  simp [insert, each_insertAlert_run, Session.addAlerts]

/-- A row that is there after an insertion by `i` belongs to `i` and is new,
or belongs to whom it did. -/
theorem insert_owned {a : Alert} (ha : a ∈ (σ.insert env i new).db.alerts) {j : ι}
    (ho : (σ.insert env i new).owner a.id = some j) :
    (j = i ∧ new ≠ []) ∨ ∃ b ∈ σ.db.alerts, σ.owner b.id = some j := by
  rw [insert_alerts] at ha
  rw [insert_owner] at ho
  have hid : a.id ∈ (addAlerts env σ.tick new σ.db.alerts).ids := Table.mem_ids.mpr ⟨a, ha, rfl⟩
  split at ho
  · next hnew =>
    refine .inl ⟨(Option.some.inj ho).symm, ?_⟩
    rintro rfl
    exact hnew.2 hid
  · next hold =>
    obtain ⟨b, hb, hba⟩ := Table.mem_ids.mp (not_not.mp fun hn => hold ⟨hid, hn⟩)
    rw [← hba] at ho
    exact .inr ⟨b, hb, ho⟩

variable [DecidableEq ι]

theorem Inv.goto (h : Inv σ) {phase : ScanPhase}
    (hsorted : (phaseBatch phase).Pairwise (fun a b => a.id < b.id))
    (hpending : Pending (σ.scan i) → Pending phase) : Inv (σ.goto i phase) where
  sorted j := by
    by_cases hj : j = i
    · subst hj
      simpa [ScanSystem.goto] using hsorted
    · simpa [ScanSystem.goto, hj] using h.sorted j
  owned a ha j ho := by
    have hold := h.owned a ha j ho
    by_cases hj : j = i
    · subst hj
      simpa [ScanSystem.goto] using hpending hold
    · simpa [ScanSystem.goto, hj] using hold

theorem nextBatch_sorted (env : Env) (job : ScanJob) (lastId : ℤ) (db : Database) :
    (nextBatch env job lastId db).Pairwise (fun a b => a.id < b.id) :=
  (matchesFrom_sorted job db lastId).sublist (List.take_sublist _ _)

/-- The rows `i` has inserted make its walk one that has recorded. -/
theorem Inv.insert (h : Inv σ) {phase : ScanPhase} (hbatch : phaseBatch phase = [])
    (hpending : new ≠ [] ∨ Pending (σ.scan i) → Pending phase) :
    Inv ((σ.insert env i new).goto i phase) where
  sorted j := by
    by_cases hj : j = i
    · subst hj
      simp [ScanSystem.goto, hbatch]
    · simpa [ScanSystem.goto, hj, ScanSystem.insert] using h.sorted j
  owned a ha j ho := by
    by_cases hj : j = i
    · subst hj
      have hphase : Pending phase := by
        rcases insert_owned ha ho with ⟨-, hnew⟩ | ⟨b, hb, hob⟩
        · exact hpending (.inl hnew)
        · exact hpending (.inr (h.owned b hb j hob))
      simpa [ScanSystem.goto] using hphase
    · rcases insert_owned ha ho with ⟨hji, -⟩ | ⟨b, hb, hob⟩
      · exact absurd hji hj
      · simpa [ScanSystem.goto, hj, ScanSystem.insert] using h.owned b hb j hob

/-- After its commit no uncommitted row belongs to `i`. -/
theorem Inv.commit (h : Inv σ) (page : Page Instance) :
    Inv ((σ.commit i).goto i (.finished page)) where
  sorted j := by
    by_cases hj : j = i
    · subst hj
      simp [ScanSystem.goto, phaseBatch]
    · simpa [ScanSystem.goto, hj, ScanSystem.commit] using h.sorted j
  owned a ha j ho := by
    simp only [ScanSystem.goto, ScanSystem.commit] at ho
    split at ho
    · simp at ho
    · next hne =>
      have hj : j ≠ i := fun hji => hne (hji ▸ ho)
      simpa [ScanSystem.goto, hj, ScanSystem.commit] using h.owned a ha j ho

theorem Inv.step (h : Inv σ) (i : ι) : Inv (σ.step env requests i) := by
  cases hphase : σ.scan i with
  | reading v =>
    simp only [ScanSystem.step, hphase]
    split
    · exact h.goto .nil fun hp => by simpa [hphase, Pending] using hp
    · exact h.goto (nextBatch_sorted ..) fun hp => by simpa [hphase, Pending] using hp
  | probing v batch =>
    have hsorted := h.sorted i
    rw [hphase] at hsorted
    simp only [ScanSystem.step, hphase]
    exact h.goto hsorted fun hp => by simpa [hphase, Pending] using hp
  | recording v batch existing =>
    have hrecorded : newAlerts (requests i).job existing batch ≠ [] ∨ Pending (σ.scan i) →
        (v.recorded || !(newAlerts (requests i).job existing batch).isEmpty) = true := by
      rintro (hnew | hrec)
      · simp [hnew]
      · rw [hphase] at hrec
        rw [show v.recorded = true from hrec, Bool.true_or]
    simp only [ScanSystem.step, hphase]
    split <;> exact h.insert rfl hrecorded
  | finishing v =>
    simp only [ScanSystem.step, hphase]
    split
    · exact h.commit _
    · next hrec => exact h.goto .nil fun hp => by simp [hphase, Pending, hrec] at hp
  | finished page =>
    simp only [ScanSystem.step, hphase]
    exact h

-- ---------------------------------------------------------------------------
-- A scan that is alone
-- ---------------------------------------------------------------------------

def OnlyOwner (i : ι) (σ : ScanSystem ι) : Prop := ∀ id j, σ.owner id = some j → j = i

theorem OnlyOwner.visible (h : OnlyOwner i σ) : σ.visible i = σ.db.alerts := by
  refine Table.ext_mem fun a => ?_
  rw [ScanSystem.visible, Table.mem_delete]
  refine and_iff_left_of_imp fun _ => ?_
  cases ho : σ.owner a.id with
  | none => simp
  | some j => simp [h a.id j ho]

omit [DecidableEq ι] in
theorem OnlyOwner.insert (h : OnlyOwner i σ) : OnlyOwner i (σ.insert env i new) := by
  intro id j ho
  rw [insert_owner] at ho
  split at ho
  · exact (Option.some.inj ho).symm
  · exact h id j ho

theorem goto_goto (phase phase' : ScanPhase) :
    (σ.goto i phase).goto i phase' = σ.goto i phase' := by
  simp [ScanSystem.goto]

theorem goto_scan (phase : ScanPhase) : (σ.goto i phase).scan i = phase := by
  simp [ScanSystem.goto]

/-- One turn of the loop takes three statements. -/
theorem play_turn {v : Walk} (hphase : σ.scan i = .reading v) (howner : OnlyOwner i σ)
    {batch : List Instance} (hbatch : nextBatch env (requests i).job v.lastId σ.db = batch)
    (hne : batch.isEmpty = false) (hnew : missingAlerts (requests i).job σ.db.alerts batch = new) :
    play (ScanSystem.step env requests) σ [i, i, i] =
      (σ.insert env i new).goto i
        (if batch.length < env.idBatchSize then
          .finishing (v.next (requests i).page (requests i).size batch (!new.isEmpty))
        else .reading (v.next (requests i).page (requests i).size batch (!new.isEmpty))) := by
  let existing :=
    instancesWithUnresolvedAlert σ.db.alerts (batch.map Instance.id) (requests i).job.alertType
  have hread : σ.step env requests i = σ.goto i (.probing v batch) := by
    simp only [ScanSystem.step, hphase, hbatch, hne]
    rfl
  have hprobe : (σ.goto i (.probing v batch)).step env requests i =
      σ.goto i (.recording v batch existing) := by
    have hvisible : (σ.goto i (.probing v batch)).visible i = σ.db.alerts := howner.visible
    simp only [ScanSystem.step, goto_scan, goto_goto, hvisible]
    rfl
  have hinsert : (σ.goto i (.recording v batch existing)).step env requests i =
      ((σ.insert env i new).goto i (.recording v batch existing)).goto i
        (if batch.length < env.idBatchSize then
          .finishing (v.next (requests i).page (requests i).size batch (!new.isEmpty))
        else .reading (v.next (requests i).page (requests i).size batch (!new.isEmpty))) := by
    simp only [ScanSystem.step, goto_scan]
    rw [newAlerts_probe, hnew]
    rfl
  rw [play_cons, hread, play_cons, hprobe, play_cons, hinsert, goto_goto, play_nil]

omit [DecidableEq ι] in
theorem insert_session (env : Env) (i : ι) (new : List NewAlert) {s : Session}
    (hview : s.view = σ.db) (htick : s.tick = σ.tick) :
    (s.addAlerts env new).view = (σ.insert env i new).db ∧
      (s.addAlerts env new).tick = (σ.insert env i new).tick := by
  simp [ScanSystem.insert, each_insertAlert_run, Session.addAlerts, hview, htick]

theorem matchesFrom_decreases {job : ScanJob} {db db' : Database} {v : Walk} {batch : List Instance}
    {recorded : Bool} (hbatch : nextBatch env job v.lastId db = batch) (hne : batch.isEmpty = false)
    (hsame : ∀ lastId, matchesFrom job db' lastId = matchesFrom job db lastId) (page size : ℕ) :
    (matchesFrom job db' (v.next page size batch recorded).lastId).length <
      (matchesFrom job db v.lastId).length := by
  rw [nextBatch_eq] at hbatch
  obtain ⟨x, hx⟩ : ∃ x, batch.getLast? = some x := by
    cases h : batch.getLast? with
    | none => simp [List.getLast?_eq_none_iff.mp h] at hne
    | some x => exact ⟨x, rfl⟩
  have hlast : (v.next page size batch recorded).lastId = x.id := by simp [Walk.next, hx]
  have hpos : 0 < (matchesFrom job db v.lastId).length := by
    refine List.length_pos_of_ne_nil fun hnil => ?_
    rw [hnil, List.take_nil] at hbatch
    simp [← hbatch] at hne
  rw [hlast, hsame, matchesFrom_next (hbatch ▸ hx), List.length_drop]
  have := env.idBatchSize_pos
  omega

theorem play_scanLoop (env : Env) {fuel : ℕ} {v : Walk} {s : Session}
    (hphase : σ.scan i = .reading v) (howner : OnlyOwner i σ)
    (hview : s.view = σ.db) (htick : s.tick = σ.tick)
    (hfuel : (matchesFrom (requests i).job σ.db v.lastId).length < fuel) :
    ∃ n v' s', (scanLoop env (requests i).job (requests i).page (requests i).size fuel v).run s =
      (.ok v', s') ∧
      (play (ScanSystem.step env requests) σ (List.replicate n i)).scan i = .finishing v' ∧
      (play (ScanSystem.step env requests) σ (List.replicate n i)).db = s'.view ∧
      (play (ScanSystem.step env requests) σ (List.replicate n i)).tick = s'.tick := by
  induction fuel generalizing σ v s with
  | zero => omega
  | succ fuel ih =>
    obtain ⟨batch, hbatch⟩ : ∃ batch, nextBatch env (requests i).job v.lastId σ.db = batch :=
      ⟨_, rfl⟩
    cases hne : batch.isEmpty with
    | true =>
      have hnil : batch = [] := List.isEmpty_iff.mp hne
      have hstep : σ.step env requests i = σ.goto i (.finishing v) := by
        simp only [ScanSystem.step, hphase, hbatch, hne]
        rfl
      refine ⟨1, v, s, by simp [scanLoop, hview, hbatch, hnil], ?_⟩
      rw [List.replicate_one, play_cons, hstep]
      exact ⟨goto_scan _, hview.symm, htick.symm⟩
    | false =>
      obtain ⟨new, hnew⟩ : ∃ new, missingAlerts (requests i).job σ.db.alerts batch = new := ⟨_, rfl⟩
      have hturn := play_turn hphase howner hbatch hne hnew
      have hrec : (recordAlerts env (requests i).job batch).run s =
          (.ok (!new.isEmpty), s.addAlerts env new) := by
        rw [recordAlerts_run, hview, hnew]
      obtain ⟨hview', htick'⟩ := insert_session env i new hview htick
      by_cases hshort : batch.length < env.idBatchSize
      · rw [if_pos hshort] at hturn
        refine ⟨3, v.next (requests i).page (requests i).size batch (!new.isEmpty),
          s.addAlerts env new, ?_, ?_⟩
        · simp [scanLoop, hview, hbatch, List.isEmpty_eq_false_iff.mp hne, hrec, hshort]
        · rw [show List.replicate 3 i = [i, i, i] from rfl, hturn]
          exact ⟨goto_scan _, hview'.symm, htick'.symm⟩
      · rw [if_neg hshort] at hturn
        have hfewer : (matchesFrom (requests i).job (σ.insert env i new).db
            (v.next (requests i).page (requests i).size batch (!new.isEmpty)).lastId).length <
              fuel :=
          Nat.lt_of_lt_of_le
            (matchesFrom_decreases hbatch hne
              (fun lastId => by rw [← hview', matchesFrom_alerts, hview]) _ _)
            (Nat.lt_succ_iff.mp hfuel)
        obtain ⟨n, v', s', hloop, hplay⟩ :=
          ih (goto_scan (σ := σ.insert env i new) _) howner.insert hview' htick' hfewer
        refine ⟨3 + n, v', s', ?_, ?_⟩
        · simp [scanLoop, hview, hbatch, List.isEmpty_eq_false_iff.mp hne, hrec, hshort, hloop]
        · rw [List.replicate_add, play_append, show List.replicate 3 i = [i, i, i] from rfl, hturn]
          exact hplay

omit [DecidableEq ι] in
theorem scanned_committed {s : Session} (h : s.committed = s.view) (job : ScanJob) :
    (s.scanned env job).committed = (s.scanned env job).view := by
  unfold Session.scanned
  split
  · next hnone => rw [List.isEmpty_iff.mp hnone]; exact h
  · rfl

theorem step_scan_other {j : ι} (h : j ≠ i) : (σ.step env requests i).scan j = σ.scan j := by
  cases hphase : σ.scan i with
  | finishing v =>
    simp only [ScanSystem.step, hphase]
    split <;> simp [ScanSystem.goto, ScanSystem.commit, h]
  | recording v batch existing =>
    simp [ScanSystem.step, hphase, ScanSystem.goto, ScanSystem.insert, h]
  | reading | probing | finished => simp [ScanSystem.step, hphase, ScanSystem.goto, h]

theorem play_scan_other {j : ι} (h : j ≠ i) (n : ℕ) :
    (play (ScanSystem.step env requests) σ (List.replicate n i)).scan j = σ.scan j := by
  induction n generalizing σ with
  | zero => rfl
  | succ n ih => rw [List.replicate_succ, play_cons, ih, step_scan_other h]

/-- The statements of a scan that is alone are a sequential scan. -/
theorem alone (env : Env) (requests : ι → ScanRequest) (db : Database) (tick : ℕ) (i : ι) :
    ∃ n page s',
      (CloudMonitor.scan env (requests i).job (requests i).page (requests i).size).run
        { committed := db, view := db, tick := tick } = (.ok page, s') ∧
      (play (ScanSystem.step env requests) (start db tick) (List.replicate n i)).scan i =
        .finished page ∧
      (play (ScanSystem.step env requests) (start db tick) (List.replicate n i)).committed =
        s'.committed.alerts := by
  let s₀ : Session := { committed := db, view := db, tick := tick }
  have hfuel : (matchesFrom (requests i).job db 0).length < db.instances.rows.length + 1 :=
    Nat.lt_succ_of_le (List.length_filter_le _ _)
  have hstart : OnlyOwner i (start db tick) := fun id j h => by simp [start] at h
  obtain ⟨n, v, s, hloop, hphase, hdb, -⟩ :=
    play_scanLoop env (σ := start db tick) (s := s₀) rfl hstart rfl rfl hfuel
  let last : Session := if v.recorded then { s with committed := s.view } else s
  let page : Page Instance := {
    items := v.items
    total := v.total
    totalPages := (v.total + (requests i).size - 1) / (requests i).size }
  have hscan : (CloudMonitor.scan env (requests i).job (requests i).page (requests i).size).run s₀ =
      (.ok page, last) := by
    have hloop' : (scanLoop env (requests i).job (requests i).page (requests i).size
        (s₀.view.instances.rows.length + 1) {}).run s₀ = (.ok v, s) := hloop
    simp only [CloudMonitor.scan, run_bind, view_run, hloop', commitIfRecorded_run, run_pure]
    rfl
  have hcommitted : last.committed = last.view := by
    rw [(Prod.mk.inj (hscan.symm.trans (scan_run ..))).2]
    exact scanned_committed (s := s₀) rfl _
  have hview : last.view = s.view := by
    simp only [last]
    split <;> rfl
  obtain ⟨σ, hσ⟩ :
      ∃ σ, play (ScanSystem.step env requests) (start db tick) (List.replicate n i) = σ := ⟨_, rfl⟩
  rw [hσ] at hphase hdb
  have hinv : Inv σ :=
    hσ ▸ play_keeps (fun _ i h => h.step i) (List.replicate n i) (inv_start db tick)
  have hfinished : (σ.step env requests i).scan i = .finished page := by
    simp only [ScanSystem.step, hphase]
    exact goto_scan _
  have hidle : ∀ j, ((σ.step env requests i).scan j).Idle := by
    intro j
    by_cases hj : j = i
    · subst hj
      rw [hfinished]
      trivial
    · rw [step_scan_other hj, ← hσ, play_scan_other hj]
      rfl
  have hrows : (σ.step env requests i).db = σ.db := by
    simp only [ScanSystem.step, hphase]
    split <;> rfl
  refine ⟨n + 1, page, last, hscan, ?_⟩
  rw [List.replicate_succ', play_append, hσ, play_cons, play_nil]
  exact ⟨hfinished, by rw [(hinv.step i).committed hidle, hrows, hdb, hcommitted, hview]⟩

-- ---------------------------------------------------------------------------
-- One unresolved alert
-- ---------------------------------------------------------------------------

theorem newAlerts_pairwise (job : ScanJob) (existing : List ℤ) {batch : List Instance}
    (h : batch.Pairwise (fun a b => a.id < b.id)) :
    (newAlerts job existing batch).Pairwise (fun a b => a.instanceId ≠ b.instanceId) :=
  List.pairwise_map.mpr ((h.filter _).imp Int.ne_of_lt)

/-- The instances the next insertion is for have no unresolved alert of its
type, not even an uncommitted one. -/
def InsertsFresh (requests : ι → ScanRequest) (σ : ScanSystem ι) (i : ι) : Prop :=
  ∀ a ∈ nextInsert requests σ i, hasUnresolved σ.db.alerts a.alertType a.instanceId = false

/-- What a statement does to the rows and their owners. -/
theorem step_cases (env : Env) (requests : ι → ScanRequest) (σ : ScanSystem ι) (i : ι) : ∃ phase,
    (nextInsert requests σ i = [] ∧ (σ.step env requests i = σ.goto i phase ∨
      σ.step env requests i = (σ.commit i).goto i phase)) ∨
    σ.step env requests i = (σ.insert env i (nextInsert requests σ i)).goto i phase := by
  cases hphase : σ.scan i with
  | recording v batch existing =>
    simp only [ScanSystem.step, nextInsert, hphase]
    exact ⟨_, .inr rfl⟩
  | finishing v =>
    simp only [ScanSystem.step, nextInsert, hphase]
    split
    · exact ⟨_, .inl ⟨trivial, .inr rfl⟩⟩
    · exact ⟨_, .inl ⟨trivial, .inl rfl⟩⟩
  | reading | probing =>
    simp only [ScanSystem.step, nextInsert, hphase]
    exact ⟨_, .inl ⟨trivial, .inl rfl⟩⟩
  | finished page =>
    refine ⟨σ.scan i, .inl ⟨by simp only [nextInsert, hphase], .inl ?_⟩⟩
    simp only [ScanSystem.step, hphase]
    rw [← hphase, ScanSystem.goto, Function.update_eq_self]

theorem step_alerts (σ : ScanSystem ι) (i : ι) : (σ.step env requests i).db.alerts =
    addAlerts env σ.tick (nextInsert requests σ i) σ.db.alerts := by
  obtain ⟨phase, ⟨hnone, h | h⟩ | h⟩ := step_cases env requests σ i
  · rw [h, hnone]; rfl
  · rw [h, hnone]; rfl
  · rw [h]; exact insert_alerts (i := i)

theorem step_instances (σ : ScanSystem ι) (i : ι) :
    (σ.step env requests i).db.instances = σ.db.instances := by
  obtain ⟨phase, ⟨-, h | h⟩ | h⟩ := step_cases env requests σ i
  · rw [h]; rfl
  · rw [h]; rfl
  · rw [h]; exact insert_instances (i := i)

/-- A committed alert stays one. -/
theorem step_owner_none {a : Alert} (ha : a ∈ σ.db.alerts) (hnone : σ.owner a.id = none) (i : ι) :
    (σ.step env requests i).owner a.id = none := by
  obtain ⟨phase, ⟨-, h | h⟩ | h⟩ := step_cases env requests σ i
  · rw [h]
    exact hnone
  · rw [h]
    simp [ScanSystem.goto, ScanSystem.commit, hnone]
  · rw [h]
    change (σ.insert env i _).owner a.id = none
    rw [insert_owner, if_neg fun h => h.2 (Table.mem_ids.mpr ⟨a, ha, rfl⟩), hnone]

omit [DecidableEq ι] in
theorem Inv.nextInsert_pairwise (h : Inv σ) (requests : ι → ScanRequest) (i : ι) :
    (nextInsert requests σ i).Pairwise (fun a b => a.instanceId ≠ b.instanceId) := by
  have hsorted := h.sorted i
  unfold nextInsert
  split
  · next hphase =>
    rw [hphase] at hsorted
    exact newAlerts_pairwise _ _ hsorted
  · exact .nil

theorem Inv.oneUnresolved_step (h : Inv σ) (i : ι) :
    OneUnresolved (σ.step env requests i).db.alerts ↔ OneUnresolved σ.db.alerts ∧
      InsertsFresh requests σ i := by
  rw [step_alerts]
  exact oneUnresolved_addAlerts_iff (h.nextInsert_pairwise requests i)

theorem Inv.oneUnresolved_play (h : Inv σ) (schedule : List ι) :
    OneUnresolved (play (ScanSystem.step env requests) σ schedule).db.alerts ↔
      OneUnresolved σ.db.alerts ∧ Along (ScanSystem.step env requests)
        (InsertsFresh requests) σ schedule := by
  induction schedule generalizing σ with
  | nil => simp
  | cons i schedule ih =>
    rw [play_cons, ih (h.step i), h.oneUnresolved_step i, along_cons, and_assoc]

-- ---------------------------------------------------------------------------
-- What the probe knows
-- ---------------------------------------------------------------------------

theorem hasUnresolved_mono {ty : AlertType} {id : ℤ} (j : ι)
    (h : hasUnresolved σ.db.alerts ty id = true) :
    hasUnresolved (σ.step env requests j).db.alerts ty id = true := by
  obtain ⟨a, ha, hrest⟩ := hasUnresolved_iff.mp h
  rw [step_alerts]
  exact hasUnresolved_iff.mpr ⟨a, mem_addAlerts_of_mem ha, hrest⟩

theorem hasUnresolved_step {ty : AlertType} {id : ℤ} {j : ι}
    (h : ∀ a ∈ nextInsert requests σ j, a.alertType = ty → a.instanceId ≠ id) :
    hasUnresolved (σ.step env requests j).db.alerts ty id = hasUnresolved σ.db.alerts ty id := by
  rw [step_alerts]
  exact hasUnresolved_addAlerts h

/-- What is inserted is unresolved from then on. -/
theorem hasUnresolved_of_mem {a : NewAlert} {j : ι} (ha : a ∈ nextInsert requests σ j) :
    hasUnresolved (σ.step env requests j).db.alerts a.alertType a.instanceId = true := by
  obtain ⟨id, k, hmem, -⟩ := exists_mem_addAlerts env σ.tick σ.db.alerts ha
  rw [step_alerts]
  exact hasUnresolved_iff.mpr ⟨_, hmem, rfl, rfl, rfl⟩

/-- An unresolved alert is one the probe sees or one another scan hides. -/
theorem hasUnresolved_cases {ty : AlertType} {id : ℤ} (i : ι) :
    hasUnresolved σ.db.alerts ty id = true ↔
      hasUnresolved (σ.visible i) ty id = true ∨ hasUnresolved (σ.hidden i) ty id = true := by
  simp only [hasUnresolved_iff, visible, hidden, Table.mem_delete]
  constructor
  · rintro ⟨a, ha, hrest⟩
    by_cases howner : σ.owner a.id = none ∨ σ.owner a.id = some i
    · exact .inl ⟨a, ⟨ha, by simpa [← or_iff_not_imp_left] using howner⟩, hrest⟩
    · exact .inr ⟨a, ⟨ha, by simpa using howner⟩, hrest⟩
  · rintro (⟨a, ⟨ha, -⟩, hrest⟩ | ⟨a, ⟨ha, -⟩, hrest⟩) <;> exact ⟨a, ha, hrest⟩

/-- Unique alerts are not both seen and hidden. -/
theorem not_hidden_of_visible (h : OneUnresolved σ.db.alerts) {ty : AlertType} {id : ℤ}
    (hvisible : hasUnresolved (σ.visible i) ty id = true) :
    hasUnresolved (σ.hidden i) ty id = false := by
  refine Bool.eq_false_of_not_eq_true fun hhidden => ?_
  simp only [hasUnresolved_iff, visible, hidden, Table.mem_delete] at hvisible hhidden
  obtain ⟨a, ⟨ha, hseen⟩, hid, hty, hres⟩ := hvisible
  obtain ⟨b, ⟨hb, hunseen⟩, hid', hty', hres'⟩ := hhidden
  obtain rfl := h a ha b hb (hid.trans hid'.symm) (hty.trans hty'.symm) hres hres'
  simp only [decide_eq_false_iff_not] at hseen hunseen
  exact hseen (not_or.mp hunseen)

theorem step_probing {v : Walk} {batch : List Instance} (hphase : σ.scan i = .probing v batch) :
    σ.step env requests i = σ.goto i (.recording v batch (instancesWithUnresolvedAlert
      (σ.visible i) (batch.map Instance.id) (requests i).job.alertType)) := by
  simp only [ScanSystem.step, hphase]

/-- Only a probe is followed by an insertion. -/
theorem not_inserts_step (h : ∀ v batch, σ.scan i ≠ .probing v batch) :
    ¬((σ.step env requests i).scan i).Inserts := by
  cases hphase : σ.scan i with
  | probing v batch => exact absurd hphase (h v batch)
  | reading | recording =>
    simp only [ScanSystem.step, hphase, goto_scan]
    split <;> exact id
  | finishing => simp only [ScanSystem.step, hphase, goto_scan]; exact id
  | finished => simp only [ScanSystem.step, hphase]; exact id

omit [DecidableEq ι] in
theorem mem_nextInsert {v : Walk} {batch : List Instance} {existing : List ℤ}
    (hphase : σ.scan i = .recording v batch existing) {a : NewAlert} :
    a ∈ nextInsert requests σ i ↔ ∃ x ∈ batch, x.id ∉ existing ∧
      { instanceId := x.id, alertType := (requests i).job.alertType,
        message := (requests i).job.message x } = a := by
  simp [nextInsert, hphase, newAlerts, and_assoc]

/-- Scan `i`, when it is to insert, knows every unresolved alert it looks
for, and no other scan inserts one before. -/
def Knows (env : Env) (requests : ι → ScanRequest) (σ : ScanSystem ι) (events : List ι)
    (i : ι) : Prop :=
  ∀ v batch existing, σ.scan i = .recording v batch existing →
    (∀ x ∈ batch, hasUnresolved σ.db.alerts (requests i).job.alertType x.id = true →
      x.id ∈ existing) ∧ Unrivalled env requests i batch σ events

theorem Knows.fresh {events : List ι} (h : Knows env requests σ events i) :
    InsertsFresh requests σ i := by
  intro a ha
  cases hphase : σ.scan i with
  | recording v batch existing =>
    obtain ⟨x, hx, hnew, rfl⟩ := (mem_nextInsert hphase).mp ha
    exact Bool.eq_false_of_not_eq_true fun hun => hnew ((h v batch existing hphase).1 x hx hun)
  | reading | probing | finishing | finished => simp [nextInsert, hphase] at ha

theorem Knows.probed {events : List ι} (h : Undisturbed env requests σ i events)
    {v : Walk} {batch : List Instance} (hphase : σ.scan i = .probing v batch) :
    Knows env requests (σ.step env requests i) events i := by
  simp only [Undisturbed, hphase] at h
  obtain ⟨hhidden, hrivals⟩ := h
  rw [step_probing hphase] at hrivals ⊢
  intro v' batch' existing hrec
  obtain ⟨rfl, rfl, rfl⟩ := ScanPhase.recording.inj ((goto_scan _).symm.trans hrec)
  refine ⟨fun x hx hun => ?_, hrivals⟩
  rw [mem_instancesWithUnresolvedAlert (List.mem_map_of_mem hx)]
  exact ((hasUnresolved_cases (σ := σ) i).mp hun).resolve_right (by simp [hhidden x hx])

/-- A statement of another scan leaves what scan `i` knows complete. -/
theorem Knows.other {events : List ι} {j : ι} (hij : i ≠ j)
    (h : Knows env requests σ (j :: events) i) :
    Knows env requests (σ.step env requests j) events i := by
  intro v batch existing hphase
  rw [step_scan_other hij] at hphase
  obtain ⟨hknown, hrivals⟩ := h v batch existing hphase
  obtain ⟨hrival, hrest⟩ := hrivals (by simp [hphase, ScanPhase.Inserts])
  refine ⟨fun x hx hun => hknown x hx ?_, hrest⟩
  rwa [hasUnresolved_step] at hun
  rintro a ha hty hid
  exact hrival (Ne.symm hij) a ha hty (hid ▸ List.mem_map_of_mem hx)

theorem Knows.step {events : List ι} {j : ι} (hj : Undisturbed env requests σ j events)
    (h : ∀ i, Knows env requests σ (j :: events) i) (i : ι) :
    Knows env requests (σ.step env requests j) events i := by
  by_cases hij : i = j
  · subst hij
    cases hphase : σ.scan i with
    | probing v batch => exact .probed hj hphase
    | reading | recording | finishing | finished =>
      intro v' batch' existing hrec
      have hinserts : ((σ.step env requests i).scan i).Inserts := by rw [hrec]; trivial
      exact absurd hinserts (not_inserts_step (by simp [hphase]))
  · exact (h i).other hij

-- ---------------------------------------------------------------------------
-- Fresh insertions are undisturbed
-- ---------------------------------------------------------------------------

/-- What scan `i` will insert for has no unresolved alert before it does. -/
theorem unresolved_of_fresh {v : Walk} {batch : List Instance} {existing : List ℤ}
    {events : List ι} (hphase : σ.scan i = .recording v batch existing)
    (hfresh : Along (ScanSystem.step env requests) (InsertsFresh requests) σ events)
    (hidle : ((play (ScanSystem.step env requests) σ events).scan i).Idle)
    {x : Instance} (hx : x ∈ batch) (hnew : x.id ∉ existing) :
    hasUnresolved σ.db.alerts (requests i).job.alertType x.id = false := by
  induction events generalizing σ with
  | nil => simp [hphase, ScanPhase.Idle] at hidle
  | cons j events ih =>
    by_cases hij : i = j
    · subst hij
      exact hfresh.1 _ ((mem_nextInsert hphase).mpr ⟨x, hx, hnew, rfl⟩)
    · have hlater := ih ((step_scan_other hij).trans hphase) hfresh.2 hidle
      exact Bool.eq_false_of_not_eq_true fun hun => by simp [hasUnresolved_mono j hun] at hlater

/-- Another insertion for its batch would leave scan `i` or that one stale. -/
theorem unrivalled_of_fresh {v : Walk} {batch : List Instance} {existing : List ℤ}
    {events : List ι} (hphase : σ.scan i = .recording v batch existing)
    (hfresh : Along (ScanSystem.step env requests) (InsertsFresh requests) σ events)
    (hidle : ((play (ScanSystem.step env requests) σ events).scan i).Idle)
    (hknown : ∀ id ∈ existing, hasUnresolved σ.db.alerts (requests i).job.alertType id = true) :
    Unrivalled env requests i batch σ events := by
  induction events generalizing σ with
  | nil => trivial
  | cons j events ih =>
    intro _
    by_cases hij : i = j
    · subst hij
      have hinserted : ¬((σ.step env requests i).scan i).Inserts :=
        not_inserts_step (by simp [hphase])
      exact ⟨fun hne => absurd rfl hne,
        while_of_not (Q := fun τ : ScanSystem ι => (τ.scan i).Inserts) hinserted events⟩
    · have hphase' : (σ.step env requests j).scan i = .recording v batch existing :=
        (step_scan_other hij).trans hphase
      refine ⟨fun _ a ha hty hid => ?_,
        ih hphase' hfresh.2 hidle fun id hid => hasUnresolved_mono j (hknown id hid)⟩
      obtain ⟨x, hx, hxid⟩ := List.mem_map.mp hid
      have hun : hasUnresolved (σ.step env requests j).db.alerts a.alertType a.instanceId = true :=
        hasUnresolved_of_mem ha
      by_cases hold : x.id ∈ existing
      · have := hfresh.1 a ha
        rw [hty, ← hxid, hknown x.id hold] at this
        cases this
      · have := unresolved_of_fresh hphase' hfresh.2 hidle hx hold
        rw [hty, ← hxid, this] at hun
        cases hun

theorem undisturbed_of_fresh (hone : OneUnresolved σ.db.alerts) {events : List ι}
    (hfresh : Along (ScanSystem.step env requests) (InsertsFresh requests) σ (i :: events))
    (hidle : ((play (ScanSystem.step env requests) σ (i :: events)).scan i).Idle) :
    Undisturbed env requests σ i events := by
  cases hphase : σ.scan i with
  | probing v batch =>
    have hfresh' := hfresh.2
    rw [play_cons] at hidle
    simp only [Undisturbed, hphase]
    rw [step_probing hphase] at hfresh' hidle ⊢
    refine ⟨fun x hx => Bool.eq_false_of_not_eq_true fun hun => ?_, ?_⟩
    · have hall : hasUnresolved σ.db.alerts (requests i).job.alertType x.id = true :=
        (hasUnresolved_cases i).mpr (.inr hun)
      by_cases hold : hasUnresolved (σ.visible i) (requests i).job.alertType x.id = true
      · simp [not_hidden_of_visible hone hold] at hun
      · have := unresolved_of_fresh (goto_scan _) hfresh' hidle hx
          (mt (mem_instancesWithUnresolvedAlert (List.mem_map_of_mem hx)).mp hold)
        exact absurd (hall.symm.trans this) (by simp)
    · refine unrivalled_of_fresh (goto_scan _) hfresh' hidle fun id hid => ?_
      have hmem : id ∈ batch.map Instance.id := instancesWithUnresolvedAlert_subset hid
      exact (hasUnresolved_cases i).mpr (.inl ((mem_instancesWithUnresolvedAlert hmem).mp hid))
  | reading | recording | finishing | finished => simp [Undisturbed, hphase]

/-- When all scans have committed, an instance has at most one unresolved
alert of a type exactly if no scan was disturbed between its probe and its
insertion. -/
theorem scans_oneUnresolved_iff (env : Env) (requests : ι → ScanRequest) (db : Database) (tick : ℕ)
    (schedule : List ι) (hstart : OneUnresolved db.alerts)
    (hdone : ∀ i, ((play (step env requests) (start db tick) schedule).scan i).Idle) :
    OneUnresolved (play (step env requests) (start db tick) schedule).committed ↔
      Ahead (step env requests) (Undisturbed env requests) (start db tick) schedule := by
  have hinv : Inv (play (step env requests) (start db tick) schedule) :=
    play_keeps (fun _ i hσ => hσ.step i) schedule (inv_start db tick)
  rw [hinv.committed hdone, (inv_start db tick).oneUnresolved_play schedule,
    and_iff_right (show OneUnresolved (start db tick).db.alerts from hstart)]
  constructor
  · refine Along.ahead (P := fun σ events => Inv σ ∧ OneUnresolved σ.db.alerts ∧
      ∀ i, ((play (step env requests) σ events).scan i).Idle) ?_
      ⟨inv_start db tick, hstart, hdone⟩
    intro σ i events ⟨hσ, hone, hidle⟩ hfresh
    exact ⟨undisturbed_of_fresh hone hfresh (hidle i),
      hσ.step i, (hσ.oneUnresolved_step i).mpr ⟨hone, hfresh.1⟩, hidle⟩
  · refine Ahead.along (P := fun σ events => ∀ i, Knows env requests σ events i) ?_ ?_
    · intro σ i events hknows hi
      exact ⟨(hknows i).fresh, Knows.step hi hknows⟩
    · intro i v batch existing hphase
      cases hphase

instance (requests : ι → ScanRequest) (i : ι) (batch : List Instance) (σ : ScanSystem ι)
    (events : List ι) : Decidable (Unrivalled env requests i batch σ events) :=
  While.decidable σ events

instance (i : ι) (events : List ι) : Decidable (Undisturbed env requests σ i events) := by
  unfold Undisturbed
  split <;> infer_instance

end

-- ---------------------------------------------------------------------------
-- Two scans of one instance
-- ---------------------------------------------------------------------------

def hotInstance : Instance :=
  ⟨1, "web-01", "ap-southeast-1", .small, .running, 95, 50, 1, 0, 0⟩

def oneHot : Database :=
  { Database.empty with instances := ⟨[hotInstance], List.pairwise_singleton _ _⟩ }

def warningScans (_ : Fin 2) : ScanRequest :=
  { job := warningsJob (.every 1) none, page := 1, size := 20 }

theorem scans_oneUnresolved_inTurn :
    OneUnresolved (play (step (.every 1) warningScans) (start oneHot 0)
      [0, 0, 0, 0, 1, 1, 1, 1]).committed :=
  (scans_oneUnresolved_iff (.every 1) warningScans oneHot 0 [0, 0, 0, 0, 1, 1, 1, 1]
    (fun a ha => absurd ha (Table.not_mem_empty a)) (by decide +kernel)).mpr (by decide +kernel)

def bothProbeFirst : List (Fin 2) := [0, 0, 1, 1, 0, 1, 0, 1]

theorem scans_duplicate :
    OneUnresolved oneHot.alerts ∧
      (∀ i, (play (step (.every 1) warningScans) (start oneHot 0) bothProbeFirst).scan i =
        .finished { items := [hotInstance], total := 1, totalPages := 1 }) ∧
      ¬OneUnresolved (play (step (.every 1) warningScans)
        (start oneHot 0) bothProbeFirst).committed := by
  decide +kernel

end ScanSystem

end CloudMonitor
