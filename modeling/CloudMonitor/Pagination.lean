import CloudMonitor.Session

/-!
# The `page`/`size` convention

`paginate` counts the rows of a query and reads one window of them. A query
is a function of the database, so both statements read the session's rows.
-/

namespace CloudMonitor

open Fallible

def defaultSize : ℕ := 10
def maxSize : ℕ := 100

structure PageParam where
  val : ℕ := 1
  one_le : 1 ≤ val := by decide

structure SizeParam where
  val : ℕ := defaultSize
  one_le : 1 ≤ val := by decide
  le_maxSize : val ≤ maxSize := by decide

structure Page (α : Type) where
  items : List α
  total : ℕ
  totalPages : ℕ
  deriving DecidableEq

def window (rows : List α) (page size : ℕ) : List α := (rows.drop ((page - 1) * size)).take size

def paginate (query : Database → List α) (page size : ℕ) : Svc (Page α) := do
  let total := (query (← view)).length
  bindParam (((page - 1) * size : ℕ) : ℤ)
  let items := window (query (← view)) page size
  return { items := items, total := total, totalPages := (total + size - 1) / size }

def pageOf (rows : List α) (page size : ℕ) : Page α :=
  { items := window rows page size, total := rows.length,
    totalPages := (rows.length + size - 1) / size }

theorem paginate_triple (query : Database → List α) (page size : ℕ) (s : Session) :
    Triple (paginate query page size) s (fun p s' => s' = s ∧ p = pageOf (query s.view) page size)
      (fun _ s' => s' = s) := by
  unfold paginate
  refine view_bind (Triple.bind (bindParam_triple _ _) ?_)
  rintro _ _ rfl
  exact view_bind (Triple.pure ⟨rfl, rfl⟩)

theorem mem_window {rows : List α} {page size : ℕ} {r : α} (h : r ∈ window rows page size) :
    r ∈ rows :=
  List.mem_of_mem_drop (List.mem_of_mem_take h)

theorem exists_page {rows : List α} {r : α} (h : r ∈ rows) (size : SizeParam) :
    ∃ page : PageParam, r ∈ window rows page.val size.val := by
  obtain ⟨k, hk, rfl⟩ := List.mem_iff_getElem.mp h
  have hsize : 0 < size.val := size.one_le
  have hmod := Nat.mod_lt k hsize
  have hdiv : k / size.val * size.val + k % size.val = k := Nat.div_add_mod' k size.val
  refine ⟨⟨k / size.val + 1, Nat.succ_pos _⟩, List.mem_iff_getElem.mpr ⟨k % size.val, ?_, ?_⟩⟩
  · simp only [window, Nat.add_sub_cancel, List.length_take, List.length_drop]
    omega
  · simp only [window, Nat.add_sub_cancel, List.getElem_take, List.getElem_drop, hdiv]

-- ---------------------------------------------------------------------------
-- All pages
-- ---------------------------------------------------------------------------

/-- The items of the first `n` pages, one page after another. -/
def concatPages (pages : ℕ → Page α) (n : ℕ) : List α :=
  (List.range n).flatMap fun k => (pages (k + 1)).items

theorem concatPages_congr {pages pages' : ℕ → Page α} {n : ℕ}
    (h : ∀ page, 1 ≤ page → page ≤ n → pages page = pages' page) :
    concatPages pages n = concatPages pages' n := by
  refine congrArg List.flatten (List.map_congr_left fun k hk => ?_)
  rw [h (k + 1) (Nat.succ_pos k) (List.mem_range.mp hk)]

theorem concatPages_pageOf (rows : List α) (size n : ℕ) :
    concatPages (fun page => pageOf rows page size) n = rows.take (n * size) := by
  induction n with
  | zero => simp [concatPages]
  | succ n ih =>
    rw [concatPages] at ih ⊢
    rw [List.range_succ, List.flatMap_append, ih, List.flatMap_singleton, Nat.succ_mul,
      List.take_add]
    simp only [pageOf, window, Nat.add_sub_cancel]

theorem length_window (rows : List α) (page size : ℕ) :
    (window rows page size).length = min size (rows.length - (page - 1) * size) := by
  rw [window, List.length_take, List.length_drop]

theorem length_le_totalPages (total : ℕ) {size : ℕ} (hsize : 0 < size) :
    total ≤ (total + size - 1) / size * size := by
  have hdiv := Nat.div_add_mod' (total + size - 1) size
  have hmod := Nat.mod_lt (total + size - 1) hsize
  omega

theorem totalPages_le {total page size : ℕ} (hsize : 0 < size) (h : total ≤ page * size) :
    (total + size - 1) / size ≤ page := by
  rw [Nat.div_le_iff_le_mul_add_pred hsize, Nat.mul_comm size page]
  omega

end CloudMonitor
