import CloudMonitor.Integers
import CloudMonitor.Lib.Paging

/-!
# Reading a listing while others work

A reader asks for one page after another until the last. Between two pages
anyone may create, change and delete rows, and the pages are cut from another
listing each time. What the reader is shown, and what he may miss, follows from
how far each request of the others displaces the listing.
-/

namespace CloudMonitor

open Fallible SortKey

-- ---------------------------------------------------------------------------
-- The reader
-- ---------------------------------------------------------------------------

def Payload.ids : Payload → List ℤ
  | .instances p => p.items.map Instance.id
  | .alerts p => p.items.map Alert.id
  | .clients p => p.items.map Client.id
  | _ => []

def Payload.isLast : Payload → Bool
  | .instances p => p.totalPages ≤ p.page
  | .alerts p => p.totalPages ≤ p.page
  | .clients p => p.totalPages ≤ p.page
  | _ => false

/-- Requests with the subjects of their tokens, one after another. -/
def serveAll (env : Env) : List (ℤ × Request) → World → World
  | [], w => w
  | (sub, req) :: rest, w => serveAll env rest (serve env sub req w).2

/-- The reader asks for page `k + 1` and those after it, each time after some
requests of others. -/
def walk (env : Env) (sub : ℤ) (ask : PageParam → MemberRequest) :
    ℕ → List (List (ℤ × Request)) → World → List (Except ApiError Payload)
  | _, [], _ => []
  | k, others :: rest, w =>
    let r := serve env sub (.ofMember (ask ⟨k + 1, Nat.succ_pos k⟩)) (serveAll env others w)
    r.1 :: walk env sub ask (k + 1) rest r.2

/-- The reader stopped at an answer with no page after it. -/
def finished (answers : List (Except ApiError Payload)) : Bool :=
  match answers.getLast? with
  | some (.ok p) => p.isLast
  | _ => false

def shownIds (answers : List (Except ApiError Payload)) : List ℤ :=
  answers.flatMap fun
    | .ok p => p.ids
    | .error _ => []

/-- The sum of what each request costs, by the rows before and after it. -/
def moved (env : Env) (cost : Database → Database → ℕ) : List (ℤ × Request) → World → ℕ
  | [], _ => 0
  | (sub, req) :: rest, w =>
    cost w.db (serve env sub req w).2.db + moved env cost rest (serve env sub req w).2

theorem moved_append (env : Env) (cost : Database → Database → ℕ)
    (others rest : List (ℤ × Request)) (w : World) :
    moved env cost (others ++ rest) w =
      moved env cost others w + moved env cost rest (serveAll env others w) := by
  induction others generalizing w with
  | nil => simp [moved, serveAll]
  | cons other others ih =>
    obtain ⟨sub, req⟩ := other
    simp only [List.cons_append, moved, serveAll, ih, Nat.add_assoc]

@[simp] theorem moved_zero (env : Env) (others : List (ℤ × Request)) (w : World) :
    moved env (fun _ _ => 0) others w = 0 := by
  induction others generalizing w with
  | nil => rfl
  | cons other rest ih => simp only [moved, ih]

-- ---------------------------------------------------------------------------
-- Any listing
-- ---------------------------------------------------------------------------

def Bindable (binds : List ℤ) (size page : ℕ) : Prop :=
  ∀ n ∈ binds ++ [offset size page], int64 n

instance (binds : List ℤ) (size page : ℕ) : Decidable (Bindable binds size page) :=
  inferInstanceAs (Decidable (∀ n ∈ _, _))

theorem Bindable.earlier {page page' : ℕ} (h : Bindable binds size page) (hle : page' ≤ page) :
    Bindable binds size page' := by
  have hoffset : (page' - 1) * size ≤ (page - 1) * size :=
    Nat.mul_le_mul_right _ (Nat.sub_le_sub_right hle 1)
  simp only [Bindable, offset, List.forall_mem_append, List.forall_mem_singleton, int64] at h ⊢
  exact ⟨h.1, by omega⟩

/-- A listing as one reader asks for it, while `good` holds of the rows. -/
structure PagedListing (env : Env) (m : Member) (size : SizeParam) where
  ask : PageParam → MemberRequest
  ids : Database → List ℤ
  binds : List ℤ
  good : Database → Prop
  cost : Database → Database → ℕ
  payload : Database → PageParam → Payload
  ids_payload : ∀ db page, (payload db page).ids = window (ids db) page.val size.val
  isLast_payload : ∀ db page,
    (payload db page).isLast = true → (ids db).length ≤ page.val * size.val
  reply : ∀ {w : World}, good w.db → ∀ page, serve env m.id (.ofMember (ask page)) w =
    (if int64 m.id ∧ Bindable binds size.val page.val then .ok (payload w.db page)
      else .error .internal, w)
  keeps : ∀ {w w' : World}, Effect env none w w' → good w.db → good w'.db
  displaces : ∀ {w w' : World}, Effect env none w w' → good w.db →
    Displaces (cost w.db w'.db) (ids w.db) (ids w'.db)

namespace PagedListing

variable {env : Env} {m : Member} {size : SizeParam} (listing : PagedListing env m size)

theorem keeps_all (others : List (ℤ × Request)) {w : World} (h : listing.good w.db) :
    listing.good (serveAll env others w).db := by
  induction others generalizing w with
  | nil => exact h
  | cons other rest ih =>
    obtain ⟨sub, req⟩ := other
    exact ih (listing.keeps (serve_effect_unscoped env sub req w) h)

theorem displaces_all (others : List (ℤ × Request)) {w : World} (h : listing.good w.db) :
    Displaces (moved env listing.cost others w) (listing.ids w.db)
      (listing.ids (serveAll env others w).db) := by
  induction others generalizing w with
  | nil => exact .refl _
  | cons other rest ih =>
    obtain ⟨sub, req⟩ := other
    have heffect := serve_effect_unscoped env sub req w
    exact (listing.displaces heffect h).trans (ih (listing.keeps heffect h))

/-- The listing at each reading. -/
def readings : List (List (ℤ × Request)) → World → List (List ℤ)
  | [], _ => []
  | others :: rest, w =>
    listing.ids (serveAll env others w).db :: readings rest (serveAll env others w)

theorem drift (between : List (List (ℤ × Request))) {w : World} (h : listing.good w.db) :
    Drift (moved env listing.cost between.flatten w) (listing.ids w.db)
      (listing.readings between w) := by
  induction between generalizing w with
  | nil => exact .done _
  | cons others rest ih =>
    rw [List.flatten_cons, moved_append]
    exact .next (listing.displaces_all others h) (ih (listing.keeps_all others h))

/-- Page `k + 1` and those after it are answered and read to the end. -/
theorem walk_finished (between : List (List (ℤ × Request))) {w : World} (k : ℕ)
    (h : listing.good w.db) (hdone : finished (walk env m.id listing.ask k between w) = true) :
    (int64 m.id ∧ Bindable listing.binds size.val (k + 1)) ∧
      shownIds (walk env m.id listing.ask k between w) =
        readPages size.val k (listing.readings between w) ∧
      Exhausts size.val k (listing.ids w.db) (listing.readings between w) := by
  induction between generalizing w k with
  | nil => simp [walk, finished] at hdone
  | cons others rest ih =>
    have hgood := listing.keeps_all others h
    have hreply := listing.reply hgood ⟨k + 1, Nat.succ_pos k⟩
    simp only [walk, hreply] at hdone ⊢
    cases rest with
    | nil =>
      simp only [walk, finished, List.getLast?_singleton] at hdone
      split at hdone
      · next p hp =>
        have hbinds : int64 m.id ∧ Bindable listing.binds size.val (k + 1) := by
          by_contra hnot
          simp [hnot] at hp
        simp only [if_pos hbinds, Option.some.injEq, Except.ok.injEq] at hp
        subst hp
        refine ⟨hbinds, ?_, listing.isLast_payload _ _ hdone⟩
        simp only [if_pos hbinds, walk, shownIds, readings, readPages, listing.ids_payload,
          List.flatMap_cons, List.flatMap_nil]
        rfl
      · simp at hdone
    | cons next rest =>
      have hrest : finished (walk env m.id listing.ask (k + 1) (next :: rest)
          (serveAll env others w)) = true := by
        simpa only [finished, walk, List.getLast?_cons_cons] using hdone
      obtain ⟨⟨hid, hlater⟩, hshown, hlast⟩ := ih (k + 1) hgood hrest
      have hbinds : int64 m.id ∧ Bindable listing.binds size.val (k + 1) :=
        ⟨hid, hlater.earlier (Nat.le_succ _)⟩
      refine ⟨hbinds, ?_, hlast⟩
      rw [readings, readPages, ← hshown]
      simp only [if_pos hbinds, shownIds, listing.ids_payload, List.flatMap_cons]
      rfl

/-- All but as many rows as were moved in between are shown, in order. -/
theorem walk_shows (between : List (List (ℤ × Request))) {w : World} (h : listing.good w.db)
    (hdone : finished (walk env m.id listing.ask 0 between w) = true) :
    Displaces (moved env listing.cost between.flatten w) (listing.ids w.db)
      (shownIds (walk env m.id listing.ask 0 between w)) := by
  obtain ⟨-, hshown, hlast⟩ := listing.walk_finished between 0 h hdone
  rw [hshown]
  simpa using (listing.drift between h).shows hlast

end PagedListing

-- ---------------------------------------------------------------------------
-- The rows that stay
-- ---------------------------------------------------------------------------

section
variable {env : Env} {ids clientIds : Option Select} {w w' : World} {m : Member}

theorem Effect.inScope_mono {c : ℤ} (h : Effect env ids w w')
    (hc : inScope (accessibleClientIds m) w.db c = true) :
    inScope (accessibleClientIds m) w'.db c = true := by
  by_cases hrole : m.role = .admin
  · exact inScope_admin hrole
  · obtain ⟨r, hr, hmanager, hid⟩ := (inScope_manager hrole).mp hc
    exact (inScope_manager hrole).mpr ⟨r, h.client_kept hr, hmanager, hid⟩

/-- While an instance exists its owner is the same. -/
theorem Effect.owner_kept {i : Instance} (h : Effect env ids w w') (hi : i ∈ w.db.instances)
    (hid : i.id ∈ w'.db.instances.ids) :
    ∃ i' ∈ w'.db.instances, i'.id = i.id ∧ i'.clientId = i.clientId := by
  cases h with
  | idle | createClient | scan | resolveAlert => exact ⟨i, hi, rfl, rfl⟩
  | createInstance j fresh => exact ⟨i, (Table.mem_insert fresh).mpr (.inr hi), rfl, rfl⟩
  | updateStatus j hj data =>
    by_cases hij : i.id = j.id
    · obtain rfl := Table.unique hi hj hij
      exact ⟨data.apply i _, Table.mem_update.mpr (.inl ⟨rfl, Table.mem_ids.mpr ⟨i, hi, rfl⟩⟩),
        rfl, rfl⟩
    · exact ⟨i, Table.mem_update.mpr (.inr ⟨hi, hij⟩), rfl, rfl⟩
  | deleteInstance j =>
    obtain ⟨i', hi', heq⟩ := Table.mem_ids.mp hid
    obtain rfl := Table.unique (Table.mem_delete.mp hi').1 hi heq
    exact ⟨i', hi', rfl, rfl⟩

/-- An alert that still exists is as it was, or resolved since; its instance
exists if it did before. -/
theorem Effect.alert_stays {a : Alert} (h : Effect env ids w w') (ha : a ∈ w.db.alerts)
    (hid : a.id ∈ w'.db.alerts.ids) :
    (∃ a' ∈ w'.db.alerts, a' = a ∨ (a.isResolved = false ∧ ∃ t, a' = a.resolve t)) ∧
      (a.instanceId ∈ w.db.instances.ids → a.instanceId ∈ w'.db.instances.ids) := by
  cases h with
  | idle | createClient => exact ⟨⟨a, ha, .inl rfl⟩, id⟩
  | createInstance j fresh =>
    exact ⟨⟨a, ha, .inl rfl⟩, fun hi => (Table.mem_ids_insert fresh).mpr (.inr hi)⟩
  | updateStatus => exact ⟨⟨a, ha, .inl rfl⟩, Table.mem_ids_update.mpr⟩
  | scan => exact ⟨⟨a, mem_addAlerts_of_mem ha, .inl rfl⟩, id⟩
  | resolveAlert b hb hun =>
    refine ⟨?_, id⟩
    by_cases hab : a.id = b.id
    · obtain rfl := Table.unique ha hb hab
      exact ⟨a.resolve _, Table.mem_update.mpr (.inl ⟨rfl, Table.mem_ids.mpr ⟨a, ha, rfl⟩⟩),
        .inr ⟨hun, _, rfl⟩⟩
    · exact ⟨a, Table.mem_update.mpr (.inr ⟨ha, hab⟩), .inl rfl⟩
  | deleteInstance i =>
    obtain ⟨a', ha', heq⟩ := Table.mem_ids.mp hid
    obtain ⟨hold, hother⟩ := Table.mem_delete.mp ha'
    obtain rfl := Table.unique hold ha heq
    refine ⟨⟨a', ha', .inl rfl⟩, fun hi => ?_⟩
    obtain ⟨j, hj, hjd⟩ := Table.mem_ids.mp hi
    rw [← hjd] at hother
    exact Table.mem_ids.mpr ⟨j, Table.mem_delete.mpr ⟨hj, hother⟩, hjd⟩

theorem Effect.alertVisible_kept {a : Alert} (h : Effect env ids w w')
    (hstays : a.instanceId ∈ w.db.instances.ids → a.instanceId ∈ w'.db.instances.ids)
    (hvisible : alertVisible (accessibleClientIds m) w.db a = true) :
    alertVisible (accessibleClientIds m) w'.db a = true := by
  simp only [alertVisible, alertInScope, Bool.or_eq_true, Option.any_eq_true] at hvisible ⊢
  rcases hvisible with hnone | ⟨i, hfind, hscope⟩
  · exact .inl hnone
  · obtain ⟨hi, hid⟩ : i ∈ w.db.instances ∧ i.id = a.instanceId := Table.find?_eq_some.mp hfind
    have hin := hstays (Table.mem_ids.mpr ⟨i, hi, hid⟩)
    obtain ⟨i', hi', hid', howner⟩ := h.owner_kept hi (hid.symm ▸ hin)
    refine .inr ⟨i', Table.find?_eq_some.mpr ⟨hi', hid'.trans hid⟩, ?_⟩
    rw [howner]
    exact h.inScope_mono hscope

end

-- ---------------------------------------------------------------------------
-- One page
-- ---------------------------------------------------------------------------

theorem serve_page {α : Type} {env : Env} {m : Member} {w : World} {size : SizeParam}
    {call : ℕ → Svc (Page α)} {rows : List α} {binds : List ℤ}
    (ask : PageParam → MemberRequest) (payload : PageResponse α → Payload)
    (hm : m ∈ w.db.members)
    (hask : ∀ page, handle env m (ask page) =
      call page.val >>= fun p => pure (payload (pageResponse p page size)))
    (hcall : Lists w.session rows size.val (fun page => binds ++ [offset size.val page]) call)
    (page : PageParam) :
    serve env m.id (.ofMember (ask page)) w =
      (if int64 m.id ∧ Bindable binds size.val page.val then
        .ok (payload (pageAt rows page size))
      else .error .internal, w) := by
  have hpage : (call page.val).run w.session = if Bindable binds size.val page.val then
      (.ok (pageOf rows page.val size.val), w.session) else (.error .internal, w.session) :=
    hcall page.val
  simp only [serve, answer, run_bind, getCurrentMember_run (s := w.session) hm]
  by_cases hid : int64 m.id
  · simp only [hid, true_and, if_true, hask, run_bind, hpage]
    by_cases hbinds : Bindable binds size.val page.val
    · rw [if_pos hbinds, if_pos hbinds]
      rfl
    · rw [if_neg hbinds, if_neg hbinds]
      rfl
  · simp only [hid, false_and, if_false]
    rfl

theorem map_window {α β : Type} (f : α → β) (rows : List α) (page size : ℕ) :
    (window rows page size).map f = window (rows.map f) page size := by
  rw [window, window, List.map_take, List.map_drop]

theorem le_of_totalPages_le {α : Type} {rows : List α} {page : PageParam} {size : SizeParam}
    (h : (pageOf rows page.val size.val).totalPages ≤ page.val) :
    rows.length ≤ page.val * size.val :=
  (length_le_totalPages _ size.one_le).trans (Nat.mul_le_mul_right _ h)

-- ---------------------------------------------------------------------------
-- Alerts
-- ---------------------------------------------------------------------------

/-- The listed alerts that are deleted or, where only unresolved ones are
listed, rewritten. -/
def alertsLost (clientIds : Option Select) (f : AlertFilter) (db db' : Database) : ℕ :=
  (alertsQuery clientIds f db).countP fun a =>
    a.id ∉ db'.alerts.ids ∨ (f.isResolved = some false ∧ a ∉ db'.alerts)

/-- A row that is resolved keeps its place in the order, and matches unless
the unresolved are asked for. -/
theorem Effect.alert_listed {env : Env} {ids : Option Select} {w w' : World} {m : Member}
    {f : AlertFilter} {a : Alert} (h : Effect env ids w w')
    (ha : a ∈ alertsQuery (accessibleClientIds m) f w.db) (hid : a.id ∈ w'.db.alerts.ids)
    (hsame : f.isResolved = some false → a ∈ w'.db.alerts) :
    ∃ b ∈ alertsQuery (accessibleClientIds m) f w'.db, b.id = a.id ∧ b.detectedAt = a.detectedAt := by
  simp only [alertsQuery, visibleAlerts_eq, List.mem_insertionSort, List.mem_filter,
    Bool.and_eq_true] at ha ⊢
  obtain ⟨hmem, hvisible, hmatches⟩ := ha
  obtain ⟨⟨b, hb, hkind⟩, hinstance⟩ := h.alert_stays hmem hid
  have hvisible' := h.alertVisible_kept hinstance hvisible
  rcases hkind with rfl | ⟨hun, t, rfl⟩
  · exact ⟨b, ⟨hb, hvisible', hmatches⟩, rfl, rfl⟩
  · by_cases hwanted : f.isResolved = some false
    · exact ⟨a, ⟨hsame hwanted, hvisible', hmatches⟩, rfl, rfl⟩
    · refine ⟨a.resolve t, ⟨hb, hvisible', ?_⟩, rfl, rfl⟩
      simp only [AlertFilter.matches, Bool.and_eq_true, Alert.resolve, Option.all_eq_true,
        beq_iff_eq] at hmatches ⊢
      refine ⟨⟨⟨hmatches.1.1.1, fun r hr => ?_⟩, hmatches.1.2⟩, hmatches.2⟩
      have hr' := hmatches.1.1.2 r hr
      rw [hun] at hr'
      exact absurd (hr' ▸ hr) hwanted

def alertListing (env : Env) (m : Member) (size : SizeParam) (f : AlertFilter) :
    PagedListing env m size where
  ask page := .listAlerts page size f
  ids db := (alertsQuery (accessibleClientIds m) f db).map Alert.id
  binds := []
  good db := m ∈ db.members
  cost := alertsLost (accessibleClientIds m) f
  payload db page := .alerts (pageAt (alertsQuery (accessibleClientIds m) f db) page size)
  ids_payload _ _ := map_window _ _ _ _
  isLast_payload _ _ h := by
    rw [List.length_map]
    exact le_of_totalPages_le (of_decide_eq_true h)
  reply hm page := serve_page (fun page => .listAlerts page size f) .alerts hm (fun _ => rfl)
    (listAlerts_lists _ _ _ _) page
  keeps h hm := by
    rw [h.members_eq]
    exact hm
  displaces {w w'} h _ := by
    refine Displaces.mono (displaces_of_ties
      (fun a => a.id ∈ w'.db.alerts.ids ∧ (f.isResolved = some false → a ∈ w'.db.alerts))
      ranked_alertOrder (alertsQuery_strict _ f w.db) (alertsQuery_strict _ f w'.db) ?_) ?_
    · intro a ha hkept
      obtain ⟨hid, hsame⟩ := of_decide_eq_true hkept
      obtain ⟨b, hb, hbid, hdetected⟩ := h.alert_listed ha hid hsame
      refine ⟨b, hb, hbid, ?_, ?_⟩ <;>
        simp [Before, alertOrder, SortKey.asc, SortKey.desc, hbid, hdetected]
    · refine List.countP_mono_left fun a _ h => ?_
      simp only [Bool.not_eq_true', decide_eq_false_iff_not, not_and_or, Classical.not_imp] at h
      exact decide_eq_true h

/-- Whoever reads the alerts page by page while others work is shown, in order,
all that were listed when he began but as many as were deleted meanwhile, or
also resolved where he asked for unresolved ones. -/
theorem alerts_walk (env : Env) (w : World) (m : Member) (hm : m ∈ w.db.members)
    (size : SizeParam) (f : AlertFilter) (between : List (List (ℤ × Request)))
    (hdone : finished (walk env m.id (fun page => .listAlerts page size f) 0 between w) = true) :
    Displaces (moved env (alertsLost (accessibleClientIds m) f) between.flatten w)
      ((alertsQuery (accessibleClientIds m) f w.db).map Alert.id)
      (shownIds (walk env m.id (fun page => .listAlerts page size f) 0 between w)) :=
  (alertListing env m size f).walk_shows (w := w) between hm hdone

def byTwo : SizeParam := { val := 2 }

/-- The seeded rows, and the alerts of two scans. -/
def scannedEstate : World :=
  serveAll (.every 1)
    [(2, .ofMember (.errors {} {})), (2, .ofMember (.longStopped {} {}))] (seeded (.every 1))

-- Alerts 4, 3, 2 and 1, by twos. Alert 4 goes after the first page, and alert 2
-- with it to the page that has been read.
theorem alerts_walk_deletion :
    shownIds (walk (.every 1) 2 (fun page => .listAlerts page byTwo {}) 0
      [[], [(2, .ofMember (.deleteInstance 7))]] scannedEstate) = [4, 3, 1] ∧
    Displaces (moved (.every 1) (alertsLost (accessibleClientIds manager1) {})
        [(2, .ofMember (.deleteInstance 7))] scannedEstate)
      ((alertsQuery (accessibleClientIds manager1) {} scannedEstate.db).map Alert.id)
      (shownIds (walk (.every 1) 2 (fun page => .listAlerts page byTwo {}) 0
        [[], [(2, .ofMember (.deleteInstance 7))]] scannedEstate)) :=
  ⟨by decide +kernel, alerts_walk (.every 1) scannedEstate manager1 (by decide +kernel) byTwo {}
    [[], [(2, .ofMember (.deleteInstance 7))]] (by decide +kernel)⟩

-- ---------------------------------------------------------------------------
-- Instances
-- ---------------------------------------------------------------------------

/-- The listed instances that are deleted or changed. -/
def instancesChanged (clientIds : Option Select) (f : InstanceFilter) (sort : String)
    (db db' : Database) : ℕ :=
  (instancesQuery clientIds f sort db).countP fun i => i ∉ db'.instances

def instanceListing (env : Env) (m : Member) (size : SizeParam) (f : InstanceFilter)
    (sort : String) : PagedListing env m size where
  ask page := .listInstances page size f sort
  ids db := (instancesQuery (accessibleClientIds m) f sort db).map Instance.id
  binds := f.clientId.toList
  good db := m ∈ db.members
  cost := instancesChanged (accessibleClientIds m) f sort
  payload db page := .instances
    (pageAt (instancesQuery (accessibleClientIds m) f sort db) page size)
  ids_payload _ _ := map_window _ _ _ _
  isLast_payload _ _ h := by
    rw [List.length_map]
    exact le_of_totalPages_le (of_decide_eq_true h)
  reply hm page := serve_page (fun page => .listInstances page size f sort) .instances hm
    (fun _ => rfl) (listInstances_lists _ _ _ _ _) page
  keeps h hm := by
    rw [h.members_eq]
    exact hm
  displaces {w w'} h _ := by
    refine Displaces.mono (displaces_of_ties (fun i => i ∈ w'.db.instances)
      (ranked_instanceOrder sort) (instancesQuery_strict _ f sort w.db)
      (instancesQuery_strict _ f sort w'.db) ?_) ?_
    · intro i hi hkept
      have hself : ¬Before (instanceOrder sort) i i := fun hlt =>
        before_asymm (ranked_instanceOrder sort) hlt hlt
      refine ⟨i, ?_, rfl, hself, hself⟩
      simp only [instancesQuery, List.mem_insertionSort, List.mem_filter, Bool.and_eq_true] at hi ⊢
      exact ⟨of_decide_eq_true hkept, h.inScope_mono hi.2.1, hi.2.2⟩
    · refine List.countP_mono_left fun i _ h => ?_
      simpa using h

/-- The instances of one client that are deleted. -/
def instancesDeleted (clientId : ℤ) (db db' : Database) : ℕ :=
  (clientInstancesQuery clientId db).countP fun i => i.id ∉ db'.instances.ids

def clientInstanceListing (env : Env) (m : Member) (size : SizeParam) (c : Client) :
    PagedListing env m size where
  ask page := .clientInstances c.id page size
  ids db := (clientInstancesQuery c.id db).map Instance.id
  binds := [c.id]
  good db := m ∈ db.members ∧ c ∈ clientsQuery (accessibleClientIds m) db
  cost := instancesDeleted c.id
  payload db page := .instances (pageAt (clientInstancesQuery c.id db) page size)
  ids_payload _ _ := map_window _ _ _ _
  isLast_payload _ _ h := by
    rw [List.length_map]
    exact le_of_totalPages_le (of_decide_eq_true h)
  reply {w} h page := by
    obtain ⟨hm, hc⟩ := h
    obtain ⟨hc, hscope⟩ := List.mem_filter.mp hc
    have hlists : Lists w.session (clientInstancesQuery c.id w.db) size.val
        (fun page => [c.id, offset size.val page]) fun page =>
          ClientController.ownClient m c.id >>= fun _ => listClientInstances c.id page size.val := by
      intro page
      rw [run_bind_ite (ownClient_run (s := w.session) hc hscope),
        listClientInstances_lists hc size.val page]
      simp only [List.forall_mem_cons]
      by_cases hid : int64 c.id
      · simp only [hid, true_and, if_true]
        rfl
      · simp only [hid, false_and, if_false]
    refine serve_page (fun page => .clientInstances c.id page size) .instances hm ?_ hlists page
    intro page
    simp only [handle, ClientController.clientInstances, bind_assoc]
  keeps h hgood := by
    obtain ⟨hc, hscope⟩ := List.mem_filter.mp hgood.2
    rw [h.members_eq]
    exact ⟨hgood.1, List.mem_filter.mpr ⟨h.client_kept hc, h.inScope_mono hscope⟩⟩
  displaces {w w'} h _ := by
    refine Displaces.mono (displaces_of_ties (fun i => i.id ∈ w'.db.instances.ids)
      (by simpa using ranked_asc Row.id) (rows_strict w.db.instances _)
      (rows_strict w'.db.instances _) ?_) ?_
    · intro i hi hkept
      obtain ⟨hmem, hclient⟩ := List.mem_filter.mp hi
      obtain ⟨i', hi', hid, howner⟩ := h.owner_kept hmem (of_decide_eq_true hkept)
      refine ⟨i', List.mem_filter.mpr ⟨hi', ?_⟩, hid, ?_, ?_⟩
      · rw [howner]
        exact hclient
      · simp [Before, SortKey.asc, hid]
      · simp [Before, SortKey.asc, hid]
    · refine List.countP_mono_left fun i _ h => ?_
      simpa using h

/-- The instances page by page: what may be missed are as many rows as were
changed or deleted, since a change may move a row; in the order of their ids, in
which one client's are listed, only as many as were deleted. -/
theorem instances_walk (env : Env) (w : World) (m : Member) (hm : m ∈ w.db.members)
    (size : SizeParam) (between : List (List (ℤ × Request))) :
    (∀ (f : InstanceFilter) (sort : String),
      finished (walk env m.id (fun page => .listInstances page size f sort) 0 between w) = true →
      Displaces (moved env (instancesChanged (accessibleClientIds m) f sort) between.flatten w)
        ((instancesQuery (accessibleClientIds m) f sort w.db).map Instance.id)
        (shownIds (walk env m.id (fun page => .listInstances page size f sort) 0 between w))) ∧
    (∀ c ∈ clientsQuery (accessibleClientIds m) w.db,
      finished (walk env m.id (fun page => .clientInstances c.id page size) 0 between w) = true →
      Displaces (moved env (instancesDeleted c.id) between.flatten w)
        ((clientInstancesQuery c.id w.db).map Instance.id)
        (shownIds (walk env m.id (fun page => .clientInstances c.id page size) 0 between w))) := by
  constructor
  · intro f sort hdone
    exact (instanceListing env m size f sort).walk_shows (w := w) between hm hdone
  · intro c hc hdone
    exact (clientInstanceListing env m size c).walk_shows (w := w) between ⟨hm, hc⟩ hdone

theorem instances_walk_deletion :
    Displaces (moved (.every 1) (instancesDeleted 1)
        [(2, .ofMember (.deleteInstance 3))] (seeded (.every 1)))
      ((clientInstancesQuery 1 (seeded (.every 1)).db).map Instance.id)
      (shownIds (walk (.every 1) 2 (fun page => .clientInstances 1 page byTwo) 0
        [[], [(2, .ofMember (.deleteInstance 3))]] (seeded (.every 1)))) :=
  (instances_walk (.every 1) (seeded (.every 1)) manager1 (by decide +kernel) byTwo
    [[], [(2, .ofMember (.deleteInstance 3))]]).2 ⟨1, "VinaSoft", .premium, 2, 4⟩
      (by decide +kernel) (by decide +kernel)

-- ---------------------------------------------------------------------------
-- Clients
-- ---------------------------------------------------------------------------

def clientListing (env : Env) (m : Member) (size : SizeParam) : PagedListing env m size where
  ask page := .listClients page size
  ids db := (clientsQuery (accessibleClientIds m) db).map Client.id
  binds := []
  good db := m ∈ db.members
  cost _ _ := 0
  payload db page := .clients (pageAt (clientsQuery (accessibleClientIds m) db) page size)
  ids_payload _ _ := map_window _ _ _ _
  isLast_payload _ _ h := by
    rw [List.length_map]
    exact le_of_totalPages_le (of_decide_eq_true h)
  reply hm page := serve_page (fun page => .listClients page size) .clients hm (fun _ => rfl)
    (listClients_lists _ _ _) page
  keeps h hm := by
    rw [h.members_eq]
    exact hm
  displaces {w w'} h _ := by
    refine Displaces.mono (displaces_of_ties (fun _ => true)
      (by simpa using ranked_asc Row.id) (rows_strict w.db.clients _)
      (rows_strict w'.db.clients _) ?_) ?_
    · intro c hc _
      obtain ⟨hmem, hscope⟩ := List.mem_filter.mp hc
      refine ⟨c, List.mem_filter.mpr ⟨h.client_kept hmem, h.inScope_mono hscope⟩, rfl, ?_, ?_⟩ <;>
        simp [Before, SortKey.asc]
    · simp

/-- Clients are never deleted and keep their place: whoever reads them page by
page is shown all there were when he began, in order. -/
theorem clients_walk (env : Env) (w : World) (m : Member) (hm : m ∈ w.db.members)
    (size : SizeParam) (between : List (List (ℤ × Request)))
    (hdone : finished (walk env m.id (fun page => .listClients page size) 0 between w) = true) :
    ((clientsQuery (accessibleClientIds m) w.db).map Client.id).Sublist
      (shownIds (walk env m.id (fun page => .listClients page size) 0 between w)) := by
  have hshown := (clientListing env m size).walk_shows (w := w) between hm hdone
  simp only [clientListing, moved_zero] at hshown
  exact hshown.sublist

theorem clients_walk_created :
    ((clientsQuery (accessibleClientIds manager1) (seeded (.every 1)).db).map Client.id).Sublist
      (shownIds (walk (.every 1) 2 (fun page => .listClients page byTwo) 0
        [[], [(1, .ofMember (.createClient ⟨"Late", .basic, 2, by decide⟩))], []]
        (seeded (.every 1)))) :=
  clients_walk (.every 1) (seeded (.every 1)) manager1 (by decide +kernel) byTwo
    [[], [(1, .ofMember (.createClient ⟨"Late", .basic, 2, by decide⟩))], []] (by decide +kernel)

end CloudMonitor
