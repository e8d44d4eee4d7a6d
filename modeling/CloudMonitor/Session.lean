import CloudMonitor.Lib.Fallible
import CloudMonitor.Lib.Format
import CloudMonitor.Lib.OrderBy
import CloudMonitor.Models
import Mathlib.Order.Defs.LinearOrder

/-!
# Requests, sessions and what the process does not control

A request works on one session: it reads the committed rows plus its own
writes (`view`), and others see its writes after `commit`. The clock readings
and the ids the database gives to new rows come from `Env`, one answer for
each `tick`.
-/

namespace CloudMonitor

/-- `ORDER BY detectedAt DESC`, which leaves the alerts of one instant in any
order. -/
def recentOrder : List (SortKey Alert) := [(SortKey.asc Alert.detectedAt).desc]

/-- The settings and the answers of the outside world. `clock k` and
`newId k` are the answers to the `k`-th question the process asks; an id may
be one that a deleted row had, never one in use. `recentFirst` is the order the
database gives the alerts of one instance. Passwords are hashed and checked,
and Unicode text stripped and lower-cased, by functions this model does not
look into. -/
structure Env where
  settings : Settings := {}
  idBatchSize : ℕ := 500
  idBatchSize_pos : 0 < idBatchSize := by decide
  clock : ℕ → ℤ
  clock_mono : ∀ ⦃m n : ℕ⦄, m ≤ n → clock m ≤ clock n
  newId : ℕ → List ℤ → ℤ
  newId_fresh : ∀ k ids, newId k ids ∉ ids
  newId_pos : ∀ k ids, 0 < newId k ids
  recentFirst : Arrangement recentOrder
  verifyPassword : String → String → Bool
  hashPassword : String → String
  stripLower : String → String

/-- SQLite's choice of a new id: one more than the largest id in use, so the
id of a deleted row can come back. -/
def nextRowId (ids : List ℤ) : ℤ := ids.foldr max 0 + 1

theorem le_foldr_max {ids : List ℤ} (h : i ∈ ids) : i ≤ ids.foldr max 0 := by
  induction ids with
  | nil => simp at h
  | cons j ids ih =>
    rcases List.mem_cons.mp h with rfl | h
    · exact le_max_left _ _
    · exact (ih h).trans (le_max_right _ _)

theorem nextRowId_fresh (ids : List ℤ) : nextRowId ids ∉ ids := by
  intro h
  have := le_foldr_max h
  unfold nextRowId at this
  omega

theorem nextRowId_pos (ids : List ℤ) : 0 < nextRowId ids := by
  have h : 0 ≤ ids.foldr max 0 := by
    induction ids with
    | nil => exact le_rfl
    | cons j ids ih => exact ih.trans (le_max_right _ _)
  unfold nextRowId
  omega

/-- SQLite reads the alerts of one instance from the index on their type and
`isResolved`, which keeps the order of the ids, and sorts them stably. -/
def indexOrder : List (SortKey Alert) :=
  [.asc fun a => a.alertType.ctorIdx, .asc Alert.isResolved, .asc Alert.id]

theorem ranked_indexOrder : ∀ key ∈ recentOrder ++ indexOrder, key.Ranked := by
  simp only [recentOrder, indexOrder, List.cons_append, List.nil_append, List.forall_mem_cons]
  exact ⟨(SortKey.ranked_asc _).desc, SortKey.ranked_asc _, SortKey.ranked_asc _,
    SortKey.ranked_asc _, fun _ h => nomatch h⟩

def Env.sqlite (clock : ℕ → ℤ) (clock_mono : ∀ ⦃m n : ℕ⦄, m ≤ n → clock m ≤ clock n) : Env where
  clock := clock
  clock_mono := clock_mono
  newId _ := nextRowId
  newId_fresh _ := nextRowId_fresh
  newId_pos _ := nextRowId_pos
  recentFirst := (Arrangement.sort (recentOrder ++ indexOrder) ranked_indexOrder).coarsen
  verifyPassword password stored := password == stored
  hashPassword password := password
  stripLower := stripLowerAscii

def Env.every (d : ℕ) : Env :=
  .sqlite (fun k => k * d) fun _ _ h => Int.mul_le_mul_of_nonneg_right (Int.ofNat_le.mpr h)
    (Int.natCast_nonneg d)

/-- What a request is refused with. `internal` is an exception nobody
handles. -/
inductive ApiError
  | notFound (resource : String) (resourceId : ℤ)
  | activeInstance (instanceId : ℤ)
  | validation (detail : String)
  | http (status : ℕ) (detail : String) (headers : List (String × String))
  | internal
  deriving DecidableEq, Repr

def ApiError.status : ApiError → ℕ
  | .notFound .. => 404
  | .activeInstance _ => 409
  | .validation _ => 400
  | .http status .. => status
  | .internal => 500

def ApiError.detail : ApiError → String
  | .notFound resource resourceId => resource ++ " " ++ toString resourceId ++ " not found"
  | .activeInstance instanceId =>
    "Instance " ++ toString instanceId ++ " is RUNNING and cannot be deleted. Stop it first."
  | .validation detail => detail
  | .http _ detail _ => detail
  | .internal => "Internal Server Error"

structure Session where
  committed : Database
  view : Database
  tick : ℕ

abbrev Svc : Type → Type := Fallible Session ApiError

open Fallible

/-- The rows a statement of this session reads. -/
def view : Svc Database := do return (← get).view

def commit : Svc Unit := modify fun s => { s with committed := s.view }

def utcnow (env : Env) : Svc ℤ := do
  let s ← get
  modify fun s => { s with tick := s.tick + 1 }
  return env.clock s.tick

/-- A signed 64-bit integer, the only kind SQLite stores. -/
def int64 (n : ℤ) : Prop := -9223372036854775808 ≤ n ∧ n ≤ 9223372036854775807

instance (n : ℤ) : Decidable (int64 n) := inferInstanceAs (Decidable (_ ∧ _))

/-- The driver raises on an integer SQLite cannot hold. -/
def bindParam (n : ℤ) : Svc Unit := if int64 n then return () else raise .internal

/-- `db.get(Model, id)`. -/
def dbGet {α : Type} [Row α] (table : Database → Table α) (id : ℤ) : Svc (Option α) := do
  bindParam id
  return (table (← view)).find? id

/-- `INSERT` of one row. Its id is the database's choice, and the column with
`default=utcnow` that every table here has reads the clock. -/
def insertRow {α : Type} [Row α] (env : Env) (table : Database → Table α)
    (put : Database → Table α → Database) (row : ℤ → ℤ → α)
    (hid : ∀ i t, Row.id (row i t) = i := by intros; rfl) : Svc α := do
  let s ← get
  let stamp := env.clock s.tick
  let rows := table s.view
  modify fun s => { s with
    view := put s.view (rows.insertNew (env.newId s.tick) (env.newId_fresh s.tick)
      (fun i => row i stamp) (fun i => hid i stamp))
    tick := s.tick + 1 }
  return row (env.newId s.tick rows.ids) stamp

-- ---------------------------------------------------------------------------
-- Running the primitives
-- ---------------------------------------------------------------------------

@[simp] theorem view_run (s : Session) : view.run s = (.ok s.view, s) := rfl

@[simp] theorem commit_run (s : Session) :
    commit.run s = (.ok (), { s with committed := s.view }) :=
  rfl

@[simp] theorem utcnow_run (env : Env) (s : Session) :
    (utcnow env).run s = (.ok (env.clock s.tick), { s with tick := s.tick + 1 }) := rfl

section
variable {β : Type} {Q : β → Session → Prop} {E : ApiError → Session → Prop} {s : Session}

theorem view_bind {f : Database → Svc β} (h : Triple (f s.view) s Q E) :
    Triple (view >>= f) s Q E :=
  ⟨h.outcome⟩

theorem utcnow_bind {f : ℤ → Svc β} {env : Env}
    (h : Triple (f (env.clock s.tick)) { s with tick := s.tick + 1 } Q E) :
    Triple (utcnow env >>= f) s Q E := ⟨h.outcome⟩

end

theorem bindParam_triple (n : ℤ) (s : Session) :
    Triple (bindParam n) s (fun _ s' => s' = s) (fun _ s' => s' = s) :=
  Triple.ite (fun _ => Triple.pure rfl) (fun _ => Triple.raise rfl)

theorem bindParam_run (n : ℤ) (s : Session) :
    (bindParam n).run s = if int64 n then (.ok (), s) else (.error .internal, s) :=
  run_ite _ _ _

theorem dbGet_run {α : Type} [Row α] (table : Database → Table α) (id : ℤ) (s : Session) :
    (dbGet table id).run s =
      if int64 id then (.ok ((table s.view).find? id), s) else (.error .internal, s) := by
  rw [dbGet, run_bind_ite (bindParam_run id s)]
  rfl

theorem dbGet_found {α : Type} [Row α] {table : Database → Table α} {r : α} {s : Session}
    (hr : r ∈ table s.view) :
    (dbGet table (Row.id r)).run s =
      if int64 (Row.id r) then (.ok (some r), s) else (.error .internal, s) := by
  rw [dbGet_run, Table.find?_eq_some.mpr ⟨hr, rfl⟩]

theorem dbGet_absent {α : Type} [Row α] {table : Database → Table α} {id : ℤ} {s : Session}
    (h : id ∉ (table s.view).ids) :
    (dbGet table id).run s = if int64 id then (.ok none, s) else (.error .internal, s) := by
  rw [dbGet_run, Table.find?_eq_none.mpr h]

theorem dbGet_triple {α : Type} [Row α] (table : Database → Table α) (id : ℤ) (s : Session) :
    Triple (dbGet table id) s (fun r s' => s' = s ∧ (table s.view).find? id = r)
      (fun _ s' => s' = s) := by
  refine Triple.bind (bindParam_triple id s) ?_
  rintro _ _ rfl
  exact view_bind (Triple.pure ⟨rfl, rfl⟩)

end CloudMonitor
