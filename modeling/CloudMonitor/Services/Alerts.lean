import CloudMonitor.Deps
import CloudMonitor.Pagination

/-!
# Alert history

Listing alerts and marking one resolved.
-/

namespace CloudMonitor

open Fallible

structure AlertFilter where
  alertType : Option AlertType := none
  isResolved : Option Bool := none
  dateFrom : Option ℤ := none
  dateTo : Option ℤ := none

/-- A date is a day since 1970-01-01; it bounds `detectedAt` by its first or
its last microsecond. -/
def AlertFilter.matches (f : AlertFilter) (a : Alert) : Bool :=
  f.alertType.all (a.alertType == ·) && f.isResolved.all (a.isResolved == ·) &&
    f.dateFrom.all (fun d => d * dayMicros ≤ a.detectedAt) &&
    f.dateTo.all (fun d => a.detectedAt ≤ d * dayMicros + (dayMicros - 1))

/-- `ORDER BY detectedAt DESC, id DESC`. -/
def newestFirst (a b : Alert) : Prop :=
  b.detectedAt < a.detectedAt ∨ (a.detectedAt = b.detectedAt ∧ b.id ≤ a.id)

instance : DecidableRel newestFirst := fun _ _ => inferInstanceAs (Decidable (_ ∨ _))

/-- `alerts JOIN instances ON alerts.instanceId = instances.id`. -/
def alertsJoinInstances (db : Database) : List (Alert × Instance) :=
  db.alerts.rows.flatMap fun a =>
    (db.instances.rows.filter (fun i => a.instanceId == i.id)).map fun i => (a, i)

def scopedAlerts (clientIds : Option Select) (db : Database) : List Alert :=
  ((alertsJoinInstances db).filter (fun p => inScope clientIds db p.2.clientId)).map Prod.fst

def alertInScope (clientIds : Option Select) (db : Database) (a : Alert) : Bool :=
  (db.instances.find? a.instanceId).any (fun i => inScope clientIds db i.clientId)

/-- The join finds one instance for an alert or none, so it only filters. -/
theorem scopedAlerts_eq (clientIds : Option Select) (db : Database) :
    scopedAlerts clientIds db = db.alerts.rows.filter (alertInScope clientIds db) := by
  unfold scopedAlerts alertsJoinInstances
  induction db.alerts.rows with
  | nil => rfl
  | cons a rest ih =>
    rw [List.flatMap_cons, List.filter_append, List.map_append, ih, List.filter_cons]
    have hfilter : db.instances.rows.filter (fun i => a.instanceId == i.id) =
        (db.instances.find? a.instanceId).toList := Table.filter_id _ _
    rw [hfilter, alertInScope]
    cases db.instances.find? a.instanceId with
    | none => simp
    | some i => cases h : inScope clientIds db i.clientId <;> simp [h]

/-- The rows `list_alerts` selects, in order. Only a scope needs the join. -/
def alertsQuery (clientIds : Option Select) (f : AlertFilter) (db : Database) : List Alert :=
  let visible := if clientIds.isSome then scopedAlerts clientIds db else db.alerts.rows
  (visible.filter f.matches).insertionSort newestFirst

def listAlerts (clientIds : Option Select) (page size : ℕ) (f : AlertFilter) : Svc (Page Alert) :=
  paginate (alertsQuery clientIds f) page size

def Alert.resolve (a : Alert) (now : ℤ) : Alert :=
  { a with isResolved := true, resolvedAt := some now }

def resolveAlert (env : Env) (alertId : ℤ) : Svc Alert := do
  match ← dbGet (·.alerts) alertId with
  | none => raise (.notFound "Alert" alertId)
  | some alert =>
    if alert.isResolved then
      return alert
    else
      let now ← utcnow env
      modify fun s => { s with
        view := { s.view with alerts := s.view.alerts.update (alert.resolve now) } }
      commit
      return alert.resolve now

end CloudMonitor
