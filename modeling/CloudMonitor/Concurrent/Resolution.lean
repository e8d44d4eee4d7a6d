import CloudMonitor.Lib.SharedRow
import CloudMonitor.Services.Alerts

/-!
# Concurrent resolutions of an alert

`PATCH …/resolve` loads the committed alert, checks on the copy that it is not
resolved, and then stamps it by id. A request that loaded before another's
commit stamps it again. Alone, the two steps are the sequential service call
(`AlertRow.alone`).
-/

namespace CloudMonitor

open Fallible

/-- `UPDATE alerts SET isResolved = 1 …`; `resolvedAt` is only in it when its
value differs from the loaded one. -/
structure AlertWrite where
  resolvedAt : Option (Option ℤ)
  deriving DecidableEq

def Alert.resolution (now : ℤ) (loaded : Alert) : Option AlertWrite :=
  if loaded.isResolved then none
  else some { resolvedAt := if loaded.resolvedAt = some now then none else some (some now) }

def AlertWrite.exec (w : AlertWrite) (row : Alert) : Alert :=
  { row with isResolved := true, resolvedAt := w.resolvedAt.getD row.resolvedAt }

abbrev AlertRow (ι : Type) : Type := SharedRow ι Alert AlertWrite

namespace AlertRow

open SharedRow

/-- What the outside answers a step is the clock reading it may take. -/
def protocol (ι : Type) : Protocol ι ℤ Alert AlertWrite where
  decide _ now loaded := loaded.resolution now
  exec w row := some (w.exec row)

def resolvedColumn (ι : Type) : Column (protocol ι) Bool where
  get := Alert.isResolved
  set? _ := some true
  get_exec h := by
    obtain rfl := Option.some.inj h
    rfl

def resolvedAtColumn (ι : Type) : Column (protocol ι) (Option ℤ) where
  get := Alert.resolvedAt
  set? := AlertWrite.resolvedAt
  get_exec h := by
    obtain rfl := Option.some.inj h
    rfl

section
variable {ι : Type} {σ : AlertRow ι} {a copy : Alert} {since : List AlertWrite} {now : ℤ}

theorem resolution_exec (now : ℤ) (h : a.isResolved = false) :
    (a.resolution now).map (AlertWrite.exec · a) = some (a.resolve now) := by
  simp only [Alert.resolution, h, Bool.false_eq_true, if_false, Option.map_some, AlertWrite.exec,
    Alert.resolve]
  split
  · next hsame => simp [hsame]
  · simp

theorem resolved_iff (h : Inv (protocol ι) σ) {i : ι} (hphase : σ.phase i = .loaded copy since)
    (hrow : σ.row = some a) (hcopy : copy.isResolved = false) :
    a.isResolved = true ↔ since ≠ [] := by
  have hres := h.column (resolvedColumn ι) hphase hrow
  change a.isResolved = _ at hres
  cases since with
  | nil => simpa [Column.lastSet, resolvedColumn, hcopy] using hres
  | cons w since => simpa [Column.lastSet, resolvedColumn] using hres

theorem exists_replay (since : List AlertWrite) (copy : Alert) :
    ∃ a, replay (protocol ι) since copy = some a := by
  induction since with
  | nil => exact ⟨copy, rfl⟩
  | cons w since ih =>
    obtain ⟨a, ha⟩ := ih
    exact ⟨w.exec a, by rw [replay_cons, ha]; rfl⟩

variable [DecidableEq ι]

/-- The two steps of a request that is alone are the service call. -/
theorem alone (env : Env) (i : ι) (db : Database) (k : ℕ) (t : ℤ) (ha : a ∈ db.alerts)
    (hid : int64 a.id) :
    ((resolveAlert env a.id).run
        { committed := db, view := db, tick := k }).2.committed.alerts.find? a.id =
      (play (step (protocol ι)) (start (some a)) [(i, t), (i, env.clock k)]).row := by
  have hstored : db.alerts.find? a.id = some a := Table.find?_eq_some.mpr ⟨ha, rfl⟩
  have hload : (dbGet (·.alerts) a.id).run { committed := db, view := db, tick := k } =
      (.ok (some a), { committed := db, view := db, tick := k }) := by
    simp [dbGet, bindParam, hid, hstored]
  rw [play_alone]
  cases hres : a.isResolved with
  | true => simp [resolveAlert, hload, hres, hstored, protocol, Alert.resolution]
  | false =>
    obtain ⟨w, hw, hexec⟩ := Option.map_eq_some_iff.mp (resolution_exec (env.clock k) hres)
    simp only [resolveAlert, run_bind, hload, hres, protocol, hw, hexec, Bool.false_eq_true,
      if_false, utcnow_run, run_modify, commit_run, run_pure]
    exact Table.find?_eq_some.mpr
      ⟨Table.mem_update.mpr (.inl ⟨rfl, Table.mem_ids.mpr ⟨a, ha, rfl⟩⟩), rfl⟩

-- ---------------------------------------------------------------------------
-- The first stamp
-- ---------------------------------------------------------------------------

/-- The step changes the resolution time of a resolved alert. -/
def Restamps (σ : AlertRow ι) (e : ι × ℤ) : Prop :=
  match σ.row, (σ.step (protocol ι) e).row with
  | some a, some b => a.isResolved = true ∧ b.resolvedAt ≠ a.resolvedAt
  | _, _ => False

omit [DecidableEq ι] in
/-- The step writes from an unresolved copy after another request's commit,
at another instant than the last one stored. -/
def StampsLate (σ : AlertRow ι) (e : ι × ℤ) : Prop :=
  match σ.phase e.1 with
  | .loaded copy since => copy.isResolved = false ∧ since ≠ [] ∧ copy.resolvedAt ≠ some e.2 ∧
    ((resolvedAtColumn ι).lastSet since).getD copy.resolvedAt ≠ some e.2
  | _ => False

theorem step_stamps (now : ℤ) {i : ι} (hphase : σ.phase i = .loaded copy since)
    (hrow : σ.row = some a) (hcopy : copy.isResolved = false) :
    ∃ b, (σ.step (protocol ι) (i, now)).row = some b ∧
      b.resolvedAt = if copy.resolvedAt = some now then a.resolvedAt else some now := by
  refine ⟨_, by simp [step, hphase, SharedRow.goto, SharedRow.commit, protocol, Alert.resolution,
    hcopy, hrow]; rfl, ?_⟩
  simp only [AlertWrite.exec]
  split <;> rfl

theorem restamps_iff (h : Inv (protocol ι) σ) (e : ι × ℤ) : Restamps σ e ↔ StampsLate σ e := by
  cases hphase : σ.phase e.1 with
  | waiting | done =>
    simp only [Restamps, StampsLate, step, hphase, SharedRow.goto, iff_false]
    cases σ.row <;> simp
  | loaded copy since =>
    obtain ⟨a, hrow⟩ : ∃ a, σ.row = some a := by
      obtain ⟨a, ha⟩ := exists_replay (ι := ι) since copy
      exact ⟨a, (h _ copy since hphase).trans ha⟩
    cases hcopy : copy.isResolved with
    | true =>
      simp [Restamps, StampsLate, step, hphase, SharedRow.goto, protocol, Alert.resolution, hcopy,
        hrow]
    | false =>
      obtain ⟨b, hstep, hstamp⟩ := step_stamps e.2 hphase hrow hcopy
      have hstored : a.resolvedAt = ((resolvedAtColumn ι).lastSet since).getD copy.resolvedAt :=
        h.column (resolvedAtColumn ι) hphase hrow
      simp only [Restamps, StampsLate, hphase, hrow, hstep, hcopy, true_and]
      rw [resolved_iff h hphase hrow hcopy, ← hstored, hstamp]
      refine and_congr_right fun _ => ?_
      by_cases hnow : copy.resolvedAt = some e.2
      · simp [hnow]
      · simp [hnow, eq_comm]

instance (σ : AlertRow ι) (e : ι × ℤ) : Decidable (Restamps σ e) := by
  unfold Restamps
  split <;> infer_instance

/-- No commit changes the resolution time of a resolved alert, exactly if no
request stamps late. -/
theorem resolution_final_iff (a : Alert) (schedule : List (ι × ℤ)) :
    Along (step (protocol ι)) (fun σ e => ¬Restamps σ e) (start (some a)) schedule ↔
      Along (step (protocol ι)) (fun σ e => ¬StampsLate σ e) (start (some a)) schedule :=
  Along.congr (P := SharedRow.Inv (protocol ι)) (fun _ e h => h.step e)
    (fun _ e h => not_congr (restamps_iff h e)) (inv_start (some a)) schedule

end

-- ---------------------------------------------------------------------------
-- Two requests that both find the alert unresolved
-- ---------------------------------------------------------------------------

def openAlert : Alert := ⟨1, 1, .cpuHigh, "CPU usage 95.0% >= 80%", false, 0, none⟩

theorem resolution_overwritten :
    ¬Along (step (protocol Bool)) (fun σ e => ¬Restamps σ e) (start (some openAlert))
      [(false, 10), (true, 20), (false, 30), (true, 40)] ∧
    (play (step (protocol Bool)) (start (some openAlert))
      [(false, 10), (true, 20), (false, 30)]).row = some (openAlert.resolve 30) ∧
    (play (step (protocol Bool)) (start (some openAlert))
      [(false, 10), (true, 20), (false, 30), (true, 40)]).row = some (openAlert.resolve 40) := by
  decide +kernel

end AlertRow

end CloudMonitor
