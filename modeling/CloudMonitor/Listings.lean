import CloudMonitor.Lib.OrderBy
import CloudMonitor.Services.Clients
import CloudMonitor.Services.Instances
import CloudMonitor.Services.Alerts
import Mathlib.Algebra.Order.Ring.Rat
import Mathlib.Data.String.Basic

/-!
# Listings over any database

The listings again, over a database that may put tied rows in another order
for every statement. Each `ORDER BY` ends in a key that no two rows share, so
there are no ties, the answers are those of the services
(`AnyOrder.listInstances_eq` and the like), and the pages partition the rows.
-/

namespace CloudMonitor

open Fallible SortKey

-- ---------------------------------------------------------------------------
-- The listings
-- ---------------------------------------------------------------------------

/-- A statement before `OFFSET` and `LIMIT`. -/
structure Query (α : Type) where
  rows : Database → List α
  orderBy : List (SortKey α)

/-- `column.desc() if descending else column.asc()`. -/
def direction (sort : String) : SortKey Instance :=
  let column : SortKey Instance := columnLt (sortField sort)
  if sort.toList.head? == some '-' then column.desc else column

def instanceOrder (sort : String) : List (SortKey Instance) :=
  direction sort :: if sortField sort ≠ "id" then [asc Instance.id] else []

def alertOrder : List (SortKey Alert) := [(asc Alert.detectedAt).desc, (asc Alert.id).desc]

namespace AnyOrder

/-- The count is taken without the order. -/
def paginate (query : Query α) (answer : Arrangement query.orderBy) (page size : ℕ) :
    Svc (Page α) := do
  let total := (query.rows (← view)).length
  bindParam (((page - 1) * size : ℕ) : ℤ)
  let items := window (answer.arrange (query.rows (← view))) page size
  return { items := items, total := total, totalPages := (total + size - 1) / size }

def listInstances (clientIds : Option Select) (page size : ℕ) (f : InstanceFilter) (sort : String)
    (answer : Arrangement (instanceOrder sort)) : Svc (Page Instance) := do
  match f.clientId with
  | some clientId => bindParam clientId
  | none => pure ()
  paginate
    { rows := fun db =>
        db.instances.rows.filter (fun i => inScope clientIds db i.clientId && f.matches i)
      orderBy := instanceOrder sort } answer page size

def listAlerts (clientIds : Option Select) (page size : ℕ) (f : AlertFilter)
    (answer : Arrangement alertOrder) : Svc (Page Alert) :=
  paginate
    { rows := fun db =>
        (if clientIds.isSome then scopedAlerts clientIds db else db.alerts.rows).filter f.matches
      orderBy := alertOrder } answer page size

def listClients (clientIds : Option Select) (page size : ℕ)
    (answer : Arrangement [asc Client.id]) : Svc (Page Client) :=
  paginate { rows := clientsQuery clientIds, orderBy := [asc Client.id] } answer page size

def listClientInstances (clientId : ℤ) (page size : ℕ)
    (answer : Arrangement [asc Instance.id]) : Svc (Page Instance) := do
  let _ ← getClient clientId
  paginate { rows := clientInstancesQuery clientId, orderBy := [asc Instance.id] } answer page size

end AnyOrder

-- ---------------------------------------------------------------------------
-- The keys
-- ---------------------------------------------------------------------------

theorem ranked_columnLt (field : String) : Ranked (columnLt field) := by
  unfold columnLt
  split
  · exact ranked_asc Instance.instanceName
  · exact ranked_asc Instance.region
  · exact ranked_asc fun i : Instance => i.instanceType.value
  · exact ranked_asc fun i : Instance => i.status.value
  · exact ranked_asc Instance.cpuUsage
  · exact ranked_asc Instance.monthlyCost
  · exact ranked_asc Instance.clientId
  · exact ranked_asc Instance.launchedAt
  · exact ranked_asc Instance.updatedAt
  · exact ranked_asc Instance.id

theorem ranked_direction (sort : String) : Ranked (direction sort) := by
  unfold direction
  split
  · exact (ranked_columnLt _).desc
  · exact ranked_columnLt _

theorem ranked_instanceOrder (sort : String) : ∀ key ∈ instanceOrder sort, Ranked key := by
  simp only [instanceOrder, List.forall_mem_cons]
  refine ⟨ranked_direction sort, ?_⟩
  split
  · simpa using ranked_asc Instance.id
  · simp

theorem ranked_alertOrder : ∀ key ∈ alertOrder, Ranked key := by
  simp only [alertOrder, List.forall_mem_cons]
  exact ⟨(ranked_asc _).desc, (ranked_asc _).desc, by simp⟩

instance (sort : String) : Nonempty (Arrangement (instanceOrder sort)) :=
  ⟨.sort _ (ranked_instanceOrder sort)⟩

instance : Nonempty (Arrangement alertOrder) := ⟨.sort _ ranked_alertOrder⟩

section
variable {α : Type} [Row α] {t : Table α} {p : α → Bool} {keys : List (SortKey α)}

theorem rows_filter_distinct {a b : α} (ha : a ∈ t.rows.filter p) (hb : b ∈ t.rows.filter p)
    (h : Row.id a = Row.id b) : a = b :=
  Table.unique (List.mem_of_mem_filter ha) (List.mem_of_mem_filter hb) h

/-- Rows of a table do not tie when some key compares their ids. -/
theorem separates_of_id (key : SortKey α) (hmem : key ∈ keys)
    (hkey : ∀ a b : α, Row.id a < Row.id b → key a b = true ∨ key b a = true) :
    Separates keys (t.rows.filter p) := by
  intro a ha b hb
  rcases lt_trichotomy (Row.id a) (Row.id b) with hlt | heq | hgt
  · exact .inr (before_or_before hmem (hkey a b hlt))
  · exact .inl (rows_filter_distinct ha hb heq)
  · exact .inr (before_or_before hmem (hkey b a hgt).symm)

end

theorem exists_id_key (sort : String) :
    asc Instance.id ∈ instanceOrder sort ∨ (asc Instance.id).desc ∈ instanceOrder sort := by
  by_cases h : sortField sort = "id"
  · have hcolumn : columnLt (sortField sort) = asc Instance.id := by
      rw [h]
      rfl
    simp only [instanceOrder, direction, hcolumn]
    split <;> simp
  · simp [instanceOrder, h]

theorem separates_instanceOrder (sort : String) (t : Table Instance) (p : Instance → Bool) :
    Separates (instanceOrder sort) (t.rows.filter p) := by
  rcases exists_id_key sort with hmem | hmem
  · exact separates_of_id _ hmem fun a b hab => .inl (decide_eq_true hab)
  · exact separates_of_id _ hmem fun a b hab => .inr (decide_eq_true hab)

theorem separates_alertOrder (t : Table Alert) (p : Alert → Bool) :
    Separates alertOrder (t.rows.filter p) :=
  separates_of_id (asc Alert.id).desc (by simp [alertOrder])
    fun a b hab => .inr (decide_eq_true hab)

theorem orderLe_iff (sort : String) (a b : Instance) :
    orderLe (sortField sort) (sort.toList.head? == some '-') a b ↔
      ¬Before (instanceOrder sort) b a := by
  have hkey := ranked_direction sort
  have hlt : (if sort.toList.head? == some '-' then
      fun x y => columnLt (sortField sort) y x else columnLt (sortField sort)) =
      direction sort := rfl
  simp only [orderLe, hlt]
  by_cases h : sortField sort = "id"
  · have hid : direction sort a b = false → direction sort b a = false → a.id ≤ b.id := by
      simp only [direction, h]
      split
      · simp [SortKey.desc, columnLt]
        omega
      · simp [columnLt]
    have hkeys : instanceOrder sort = [direction sort] := by simp [instanceOrder, h]
    rw [hkeys, not_before_cons hkey]
    cases hab : direction sort a b with
    | true => simp
    | false => simpa [Before] using hid hab
  · have hkeys : instanceOrder sort = [direction sort, asc Instance.id] := by
      simp [instanceOrder, h]
    have hid : a.id ≤ b.id ↔ ¬Before [asc Instance.id] b a := by simp [Before, asc]
    rw [hkeys, not_before_cons hkey, hid]

theorem newestFirst_iff (a b : Alert) : newestFirst a b ↔ ¬Before alertOrder b a := by
  simp only [newestFirst, Before, alertOrder, asc, SortKey.desc, decide_eq_true_iff,
    decide_eq_false_iff_not, and_false, or_false]
  omega

-- ---------------------------------------------------------------------------
-- The answers do not depend on the database
-- ---------------------------------------------------------------------------

theorem AnyOrder.paginate_eq {α : Type} {query : Query α} {answer : Arrangement query.orderBy}
    {sorted : Database → List α} (h : ∀ db, answer.arrange (query.rows db) = sorted db)
    (page size : ℕ) :
    AnyOrder.paginate query answer page size = CloudMonitor.paginate sorted page size := by
  obtain rfl := funext h
  unfold AnyOrder.paginate CloudMonitor.paginate
  simp only [(answer.perm _).length_eq]

theorem rows_ordered {α : Type} [Row α] (t : Table α) (p : α → Bool) :
    (t.rows.filter p).Pairwise fun a b => ¬Before [asc Row.id] b a := by
  refine (t.sorted.filter p).imp fun {a b} hab => ?_
  rw [not_before_cons (ranked_asc _)]
  exact .inl (decide_eq_true hab)

theorem arrange_rows {α : Type} [Row α] (t : Table α) (p : α → Bool)
    (answer : Arrangement [asc (Row.id : α → ℤ)]) :
    answer.arrange (t.rows.filter p) = t.rows.filter p :=
  answer.arrange_eq (separates_of_id _ (List.mem_singleton_self _)
    fun _ _ hab => .inl (decide_eq_true hab)) (.refl _) (rows_ordered t p)

def alertVisible (clientIds : Option Select) (db : Database) (a : Alert) : Bool :=
  clientIds.isNone || alertInScope clientIds db a

theorem visibleAlerts_eq (clientIds : Option Select) (f : AlertFilter) (db : Database) :
    (if clientIds.isSome then scopedAlerts clientIds db else db.alerts.rows).filter f.matches =
      db.alerts.rows.filter fun a => alertVisible clientIds db a && f.matches a := by
  cases clientIds with
  | none => simp [alertVisible]
  | some scope => simp [alertVisible, scopedAlerts_eq, List.filter_filter, Bool.and_comm]

theorem InstanceFilter.matches_all (i : Instance) : ({} : InstanceFilter).matches i = true := rfl

theorem AlertFilter.matches_all (a : Alert) : ({} : AlertFilter).matches a = true := rfl

/-- Without filters a listing has the rows in scope, and no others. -/
theorem instancesQuery_perm (clientIds : Option Select) (sort : String) (db : Database) :
    (instancesQuery clientIds {} sort db).Perm
      (db.instances.rows.filter fun i => inScope clientIds db i.clientId) := by
  refine (List.perm_insertionSort _ _).trans ?_
  simp only [InstanceFilter.matches_all, Bool.and_true]
  exact .refl _

theorem alertsQuery_perm (clientIds : Option Select) (db : Database) :
    (alertsQuery clientIds {} db).Perm (db.alerts.rows.filter (alertVisible clientIds db)) := by
  rw [alertsQuery, visibleAlerts_eq]
  refine (List.perm_insertionSort _ _).trans ?_
  simp only [AlertFilter.matches_all, Bool.and_true]
  exact .refl _

theorem mem_alertsQuery {clientIds : Option Select} {f : AlertFilter} {db : Database} {a : Alert} :
    a ∈ alertsQuery clientIds f db ↔
      (a ∈ db.alerts ∧ alertVisible clientIds db a = true) ∧ f.matches a = true := by
  rw [alertsQuery, visibleAlerts_eq]
  simp only [List.mem_insertionSort, List.mem_filter, Bool.and_eq_true, and_assoc, Table.mem_def]

theorem newestFirst_strict (t : Table Alert) (p : Alert → Bool) :
    ((t.rows.filter p).insertionSort newestFirst).Pairwise (Before alertOrder) := by
  have hperm := List.perm_insertionSort newestFirst (t.rows.filter p)
  refine ((separates_alertOrder t _).perm hperm).strict ?_
    (insertionSort_ordered ranked_alertOrder newestFirst_iff _)
  exact hperm.nodup_iff.mpr (t.nodup.filter _)

theorem alertsQuery_strict (clientIds : Option Select) (f : AlertFilter) (db : Database) :
    (alertsQuery clientIds f db).Pairwise (Before alertOrder) := by
  rw [alertsQuery, visibleAlerts_eq]
  exact newestFirst_strict _ _

theorem instancesQuery_strict (clientIds : Option Select) (f : InstanceFilter) (sort : String)
    (db : Database) :
    (instancesQuery clientIds f sort db).Pairwise (Before (instanceOrder sort)) := by
  have hperm := List.perm_insertionSort
    (orderLe (sortField sort) (sort.toList.head? == some '-'))
    (db.instances.rows.filter fun i => inScope clientIds db i.clientId && f.matches i)
  refine ((separates_instanceOrder sort db.instances _).perm hperm).strict ?_
    (insertionSort_ordered (ranked_instanceOrder sort) (orderLe_iff sort) _)
  exact hperm.nodup_iff.mpr (db.instances.nodup.filter _)

theorem rows_strict {α : Type} [Row α] (t : Table α) (p : α → Bool) :
    (t.rows.filter p).Pairwise (Before [asc Row.id]) :=
  (t.sorted.filter p).imp fun hab => .inl (decide_eq_true hab)

namespace AnyOrder

theorem listInstances_eq (clientIds : Option Select) (page size : ℕ) (f : InstanceFilter)
    (sort : String) (answer : Arrangement (instanceOrder sort)) :
    listInstances clientIds page size f sort answer =
      CloudMonitor.listInstances clientIds page size f sort := by
  have h : ∀ db, answer.arrange (db.instances.rows.filter fun i =>
      inScope clientIds db i.clientId && f.matches i) = instancesQuery clientIds f sort db :=
    fun db => answer.arrange_eq (separates_instanceOrder sort _ _) (List.perm_insertionSort _ _)
      (insertionSort_ordered (ranked_instanceOrder sort) (orderLe_iff sort) _)
  unfold listInstances CloudMonitor.listInstances
  cases f.clientId with
  | none =>
      dsimp only
      exact paginate_eq h page size
  | some c => exact bind_congr fun _ => paginate_eq h page size

theorem listAlerts_eq (clientIds : Option Select) (page size : ℕ) (f : AlertFilter)
    (answer : Arrangement alertOrder) :
    listAlerts clientIds page size f answer = CloudMonitor.listAlerts clientIds page size f := by
  refine paginate_eq (fun db => ?_) page size
  refine answer.arrange_eq ?_ (List.perm_insertionSort _ _)
    (insertionSort_ordered ranked_alertOrder newestFirst_iff _)
  simp only [visibleAlerts_eq]
  exact separates_alertOrder _ _

theorem listClients_eq (clientIds : Option Select) (page size : ℕ)
    (answer : Arrangement [asc Client.id]) :
    listClients clientIds page size answer = CloudMonitor.listClients clientIds page size :=
  paginate_eq (fun db => arrange_rows db.clients _ answer) page size

theorem listClientInstances_eq (clientId : ℤ) (page size : ℕ)
    (answer : Arrangement [asc Instance.id]) :
    listClientInstances clientId page size answer =
      CloudMonitor.listClientInstances clientId page size := by
  unfold listClientInstances CloudMonitor.listClientInstances
  exact bind_congr fun _ => paginate_eq (fun db => arrange_rows db.instances _ answer) page size

end AnyOrder

-- ---------------------------------------------------------------------------
-- What a listing answers
-- ---------------------------------------------------------------------------

/-- Each page is a window of `rows`, unless the driver cannot hold an integer
the statement binds. -/
def Lists (s : Session) (rows : List α) (size : ℕ) (binds : ℕ → List ℤ)
    (call : ℕ → Svc (Page α)) : Prop :=
  ∀ page, (call page).run s =
    if ∀ n ∈ binds page, int64 n then (.ok (pageOf rows page size), s) else (.error .internal, s)

def offset (size page : ℕ) : ℤ := ((page - 1) * size : ℕ)

section
variable {α : Type} {s : Session} {rows : List α} {size : ℕ} {binds : ℕ → List ℤ}
  {call : ℕ → Svc (Page α)}

theorem Lists.bind (h : Lists s rows size binds call) (n : ℤ) :
    Lists s rows size (fun page => n :: binds page)
      fun page => bindParam n >>= fun _ => call page := by
  intro page
  rw [run_bind_ite (bindParam_run n s)]
  by_cases hn : int64 n
  · simpa [hn] using h page
  · simp [hn]

theorem paginate_lists (query : Database → List α) (size : ℕ) (s : Session) :
    Lists s (query s.view) size (fun page => [offset size page])
      fun page => paginate query page size := by
  intro page
  change (paginate query page size).run s = _
  rw [paginate, run_bind, view_run]
  dsimp only
  rw [run_bind_ite (bindParam_run _ s)]
  simp only [offset, List.forall_mem_singleton]
  rfl

theorem listInstances_lists (clientIds : Option Select) (size : ℕ) (f : InstanceFilter)
    (sort : String) (s : Session) :
    Lists s (instancesQuery clientIds f sort s.view) size
      (fun page => f.clientId.toList ++ [offset size page])
      fun page => listInstances clientIds page size f sort := by
  have hpages := paginate_lists (instancesQuery clientIds f sort) size s
  unfold listInstances
  cases f.clientId with
  | none => exact hpages
  | some c => exact hpages.bind c

theorem listAlerts_lists (clientIds : Option Select) (size : ℕ) (f : AlertFilter) (s : Session) :
    Lists s (alertsQuery clientIds f s.view) size (fun page => [offset size page])
      fun page => listAlerts clientIds page size f :=
  paginate_lists _ _ _

theorem listClients_lists (clientIds : Option Select) (size : ℕ) (s : Session) :
    Lists s (clientsQuery clientIds s.view) size (fun page => [offset size page])
      fun page => listClients clientIds page size :=
  paginate_lists _ _ _

theorem listClientInstances_lists (hc : c ∈ s.view.clients) (size : ℕ) :
    Lists s (clientInstancesQuery c.id s.view) size (fun page => [c.id, offset size page])
      fun page => listClientInstances c.id page size := by
  intro page
  have hpages := (paginate_lists (clientInstancesQuery c.id) size s).bind c.id page
  change (listClientInstances c.id page size).run s = _
  rw [← hpages, listClientInstances, run_bind_ite (getClient_run hc),
    run_bind_ite (bindParam_run c.id s)]

theorem Lists.page_eq (h : Lists s rows size binds call) {page : ℕ} {p : Page α} {s' : Session}
    (hp : (call page).run s = (.ok p, s')) : p = pageOf rows page size := by
  rw [h page] at hp
  split at hp
  · simp only [Prod.mk.injEq, Except.ok.injEq] at hp
    exact hp.1.symm
  · simp at hp

/-- The first page is answered, and every page that is reports `n` rows. -/
def Total (s : Session) (call : ℕ → Svc (Page α)) (n : ℕ) : Prop :=
  (∃ p, (call 1).run s = (.ok p, s)) ∧ ∀ page p s', (call page).run s = (.ok p, s') → p.total = n

theorem Lists.answered (h : Lists s rows size binds call) {page : ℕ}
    (hbinds : ∀ n ∈ binds page, int64 n) :
    (call page).run s = (.ok (pageOf rows page size), s) := by
  rw [h page, if_pos hbinds]

theorem Lists.total (h : Lists s rows size (fun page => [offset size page]) call) :
    Total s call rows.length := by
  refine ⟨⟨_, h.answered ?_⟩, fun page p s' hp => ?_⟩
  · simp [offset, int64]
  · rw [h.page_eq hp]
    rfl

end

-- ---------------------------------------------------------------------------
-- The pages partition the rows
-- ---------------------------------------------------------------------------

/-- The pages hold `rows`, each row once and in order, in full pages but for
the last one; the page after it is empty. -/
structure Partition (keys : List (SortKey α)) (rows : List α) (size : ℕ) (pages : ℕ → Page α) :
    Prop where
  total : ∀ page, 1 ≤ page → page ≤ (pages 1).totalPages + 1 →
    (pages page).total = rows.length ∧ (pages page).totalPages = (pages 1).totalPages
  once : (concatPages pages (pages 1).totalPages).Perm rows
  ordered : (concatPages pages (pages 1).totalPages).Pairwise (Before keys)
  full : ∀ page, 1 ≤ page → page < (pages 1).totalPages → (pages page).items.length = size
  last : 0 < rows.length → 1 ≤ (pages 1).totalPages ∧ (pages (pages 1).totalPages).items ≠ []
  beyond : (pages ((pages 1).totalPages + 1)).items = []

section
variable {α : Type} {keys : List (SortKey α)} {rows sorted : List α} {size : ℕ}
  {pages : ℕ → Page α}

/-- The pages up to the one after the last are windows of the rows. -/
def Windows (rows : List α) (size : ℕ) (pages : ℕ → Page α) : Prop :=
  ∀ page, 1 ≤ page → page ≤ (pages 1).totalPages + 1 → pages page = pageOf rows page size

theorem Windows.totalPages (h : Windows rows size pages) :
    (pages 1).totalPages = (rows.length + size - 1) / size := by
  rw [h 1 le_rfl (Nat.le_add_left _ _)]
  rfl

theorem Windows.concat (h : Windows rows size pages) (hsize : 0 < size) :
    concatPages pages (pages 1).totalPages = rows := by
  have hall : rows.length ≤ (pages 1).totalPages * size := by
    rw [h.totalPages]
    exact length_le_totalPages _ hsize
  rw [concatPages_congr fun page hone hle => h page hone (Nat.le_succ_of_le hle),
    concatPages_pageOf, List.take_of_length_le hall]

theorem partition_of_window (hsize : 0 < size) (hperm : sorted.Perm rows)
    (hsorted : sorted.Pairwise (Before keys)) (hpages : Windows sorted size pages) :
    Partition keys rows size pages := by
  have hcount := hpages.totalPages
  have hconcat := hpages.concat hsize
  have hall : sorted.length ≤ (pages 1).totalPages * size := by
    rw [hcount]
    exact length_le_totalPages _ hsize
  have hinner : ∀ page, page < (pages 1).totalPages → page * size < sorted.length := by
    intro page hlt
    by_contra hle
    rw [hcount] at hlt
    exact absurd (totalPages_le hsize (not_lt.mp hle)) (not_le.mpr hlt)
  have hitems : ∀ page, 1 ≤ page → page ≤ (pages 1).totalPages + 1 →
      (pages page).items.length = min size (sorted.length - (page - 1) * size) := by
    intro page hone hle
    rw [hpages page hone hle]
    exact length_window _ _ _
  constructor
  case total =>
    intro page hone hle
    rw [hpages page hone hle, hcount]
    exact ⟨hperm.length_eq, rfl⟩
  case once =>
    rw [hconcat]
    exact hperm
  case ordered =>
    rw [hconcat]
    exact hsorted
  case full =>
    intro page hone hlt
    have hrest := hinner page hlt
    have hpred : (page - 1) * size + size = page * size := by
      rw [← Nat.succ_mul, Nat.succ_eq_add_one, Nat.sub_add_cancel hone]
    rw [hitems page hone (by omega)]
    omega
  case last =>
    intro hpos
    rw [← hperm.length_eq] at hpos
    have hone : 1 ≤ (pages 1).totalPages := by
      by_contra h
      have hzero : (pages 1).totalPages = 0 := by omega
      simp only [hzero, Nat.zero_mul] at hall
      omega
    refine ⟨hone, List.ne_nil_of_length_pos ?_⟩
    have hrest := hinner ((pages 1).totalPages - 1) (by omega)
    rw [hitems _ hone (Nat.le_succ _)]
    omega
  case beyond =>
    refine List.length_eq_zero_iff.mp ?_
    rw [hitems _ (Nat.le_add_left _ _) le_rfl, Nat.add_sub_cancel]
    omega

end

/-- The calls answer these pages, up to the one after the last. -/
def Answered (s : Session) (call : ℕ → Svc (Page α)) (pages : ℕ → Page α) : Prop :=
  ∀ page, 1 ≤ page → page ≤ (pages 1).totalPages + 1 → (call page).run s = (.ok (pages page), s)

/-- The calls of a listing in one state: each is answered if the driver can
hold what it binds, and the pages they answer partition the rows. -/
structure Partitioned (s : Session) (keys : List (SortKey α)) (rows : List α) (size : ℕ)
    (binds : ℕ → List ℤ) (call : ℕ → Svc (Page α)) : Prop where
  answered : ∀ page, (∀ n ∈ binds page, int64 n) → ∃ p, (call page).run s = (.ok p, s)
  partition : ∀ pages, Answered s call pages → Partition keys rows size pages

theorem Lists.windows {α : Type} {s : Session} {rows : List α} {size : ℕ} {binds : ℕ → List ℤ}
    {call : ℕ → Svc (Page α)} {pages : ℕ → Page α} (h : Lists s rows size binds call)
    (hpages : Answered s call pages) : Windows rows size pages :=
  fun page hone hle => h.page_eq (hpages page hone hle)

theorem Lists.partitioned {α : Type} {s : Session} {keys : List (SortKey α)}
    {rows sorted : List α} {size : ℕ} {binds : ℕ → List ℤ} {call : ℕ → Svc (Page α)}
    (h : Lists s sorted size binds call) (hsize : 0 < size) (hperm : sorted.Perm rows)
    (hsorted : sorted.Pairwise (Before keys)) : Partitioned s keys rows size binds call where
  answered _ hbinds := ⟨_, h.answered hbinds⟩
  partition _ hpages := partition_of_window hsize hperm hsorted (h.windows hpages)

theorem Lists.partitioned_sort {α : Type} [Row α] {s : Session} {t : Table α} {p : α → Bool}
    {keys : List (SortKey α)} {le : α → α → Prop} [DecidableRel le] {size : ℕ}
    {binds : ℕ → List ℤ} {call : ℕ → Svc (Page α)}
    (h : Lists s ((t.rows.filter p).insertionSort le) size binds call) (hsize : 0 < size)
    (hkeys : ∀ key ∈ keys, Ranked key) (hle : ∀ a b, le a b ↔ ¬Before keys b a)
    (hsep : Separates keys (t.rows.filter p)) :
    Partitioned s keys (t.rows.filter p) size binds call := by
  have hperm := List.perm_insertionSort le (t.rows.filter p)
  refine h.partitioned hsize hperm ((hsep.perm hperm).strict ?_ (insertionSort_ordered hkeys hle _))
  exact hperm.nodup_iff.mpr (t.nodup.filter p)

theorem Lists.partitioned_rows {α : Type} [Row α] {s : Session} {t : Table α} {p : α → Bool}
    {size : ℕ} {binds : ℕ → List ℤ} {call : ℕ → Svc (Page α)}
    (h : Lists s (t.rows.filter p) size binds call) (hsize : 0 < size) :
    Partitioned s [asc Row.id] (t.rows.filter p) size binds call := by
  refine h.partitioned hsize (.refl _) ((t.sorted.filter p).imp fun hab => ?_)
  exact .inl (decide_eq_true hab)

/-- Whatever order the database gives tied rows in each statement, the pages
of every listing partition the rows its scope and filters match. -/
theorem pages_partition (s : Session) (size : SizeParam) :
    (∀ (clientIds : Option Select) (f : InstanceFilter) (sort : String)
        (answer : ℕ → Arrangement (instanceOrder sort)),
      Partitioned s (instanceOrder sort)
        (s.view.instances.rows.filter fun i => inScope clientIds s.view i.clientId && f.matches i)
        size.val (fun page => f.clientId.toList ++ [offset size.val page])
        fun page => AnyOrder.listInstances clientIds page size.val f sort (answer page)) ∧
    (∀ (clientIds : Option Select) (f : AlertFilter) (answer : ℕ → Arrangement alertOrder),
      Partitioned s alertOrder
        (s.view.alerts.rows.filter fun a => alertVisible clientIds s.view a && f.matches a)
        size.val (fun page => [offset size.val page])
        fun page => AnyOrder.listAlerts clientIds page size.val f (answer page)) ∧
    (∀ (clientIds : Option Select) (answer : ℕ → Arrangement [asc Client.id]),
      Partitioned s [asc Client.id]
        (s.view.clients.rows.filter fun c => inScope clientIds s.view c.id)
        size.val (fun page => [offset size.val page])
        fun page => AnyOrder.listClients clientIds page size.val (answer page)) ∧
    (∀ c ∈ s.view.clients, ∀ answer : ℕ → Arrangement [asc Instance.id],
      Partitioned s [asc Instance.id]
        (s.view.instances.rows.filter fun i => i.clientId == c.id)
        size.val (fun page => [c.id, offset size.val page])
        fun page => AnyOrder.listClientInstances c.id page size.val (answer page)) := by
  have hsize : 0 < size.val := size.one_le
  refine ⟨fun clientIds f sort answer => ?_, fun clientIds f answer => ?_,
    fun clientIds answer => ?_, fun c hc answer => ?_⟩
  · simp only [AnyOrder.listInstances_eq]
    exact (listInstances_lists clientIds size.val f sort s).partitioned_sort hsize
      (ranked_instanceOrder sort) (orderLe_iff sort) (separates_instanceOrder sort _ _)
  · simp only [AnyOrder.listAlerts_eq]
    have hlists := listAlerts_lists clientIds size.val f s
    rw [alertsQuery, visibleAlerts_eq] at hlists
    exact hlists.partitioned_sort hsize ranked_alertOrder newestFirst_iff
      (separates_alertOrder _ _)
  · simp only [AnyOrder.listClients_eq]
    exact (listClients_lists clientIds size.val s).partitioned_rows hsize
  · simp only [AnyOrder.listClientInstances_eq]
    exact (listClientInstances_lists hc size.val).partitioned_rows hsize

end CloudMonitor
