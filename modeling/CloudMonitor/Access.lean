import CloudMonitor.Integrity
import CloudMonitor.Listings

/-!
# The two enforcement paths

A guard on a loaded row and a condition in a listing's query decide the same
scope. `enforcement_paths_agree` compares them in reachable databases, where
every alert has its instance.
-/

namespace CloudMonitor

open Fallible

-- ---------------------------------------------------------------------------
-- What SQLite stores
-- ---------------------------------------------------------------------------

/-- SQLite's ids are signed 64-bit integers, and so is a count of rows. -/
def Table.Stored {α : Type} [Row α] (t : Table α) : Prop :=
  (∀ r ∈ t.rows, int64 (Row.id r)) ∧ int64 t.rows.length

instance {α : Type} [Row α] (t : Table α) : Decidable t.Stored :=
  inferInstanceAs (Decidable (_ ∧ _))

structure Database.Stored (db : Database) : Prop where
  members : db.members.Stored
  clients : db.clients.Stored
  instances : db.instances.Stored
  alerts : db.alerts.Stored

-- ---------------------------------------------------------------------------
-- Guards
-- ---------------------------------------------------------------------------

section
variable {m : Member} {s : Session}

theorem assertClientIdAccess_run (m : Member) (c : ℤ) (s : Session) :
    (assertClientIdAccess m c).run s =
      if inScope (accessibleClientIds m) s.view c then (.ok (), s) else (.error forbidden, s) := by
  unfold assertClientIdAccess inScope
  cases accessibleClientIds m with
  | none => rfl
  | some scope =>
    simp only [run_bind, view_run, run_ite, decide_eq_true_iff]
    rfl

theorem inScope_client {c : Client} {db : Database} (hc : c ∈ db.clients) :
    inScope (accessibleClientIds m) db c.id = true ↔ m.role = .admin ∨ c.managerId = m.id := by
  by_cases hrole : m.role = .admin
  · simp [inScope_admin hrole, hrole]
  · simp only [inScope_manager hrole, hrole, false_or]
    constructor
    · rintro ⟨r, hr, hman, hid⟩
      rwa [Table.unique hr hc hid] at hman
    · intro hman
      exact ⟨c, hc, hman, rfl⟩

theorem assertClientAccess_run (hc : c ∈ s.view.clients) :
    (assertClientAccess m c).run s =
      if inScope (accessibleClientIds m) s.view c.id then (.ok (), s)
      else (.error forbidden, s) := by
  simp only [inScope_client hc, assertClientAccess, run_ite, run_pure, run_raise]
  by_cases hrole : m.role = .admin
  · simp [hrole]
  · by_cases hman : c.managerId = m.id <;> simp [hrole, hman]

end

-- ---------------------------------------------------------------------------
-- Requests for one row
-- ---------------------------------------------------------------------------

section
variable {env : Env} {s : Session} {m : Member} {i : Instance} {a : Alert}

theorem handle_getInstance (hi : i ∈ s.view.instances) (hid : int64 i.id) :
    (handle env m (.getInstance i.id)).run s =
      if inScope (accessibleClientIds m) s.view i.clientId then (.ok (.inst i), s)
      else (.error forbidden, s) := by
  simp only [handle, InstanceController.getInstance, InstanceController.ownInstance, run_bind,
    getInstance_run hi hid, assertClientIdAccess_run]
  by_cases hscope : inScope (accessibleClientIds m) s.view i.clientId <;> simp [hscope]

theorem resolveAlert_answers (env : Env) (ha : a ∈ s.view.alerts) (hid : int64 a.id) :
    ∃ b s', (CloudMonitor.resolveAlert env a.id).run s = (.ok b, s') := by
  have hget : (dbGet (·.alerts) a.id).run s = _ := dbGet_found ha
  simp only [Alert.row_id, if_pos hid] at hget
  simp only [CloudMonitor.resolveAlert, run_bind, hget, run_ite]
  split
  · exact ⟨_, _, rfl⟩
  · exact ⟨_, _, rfl⟩

/-- A caller who passes the guard has the alert resolved. -/
theorem handle_resolveAlert (env : Env) (m : Member) (ha : a ∈ s.view.alerts) (hid : int64 a.id)
    (hi : i ∈ s.view.instances) (hai : i.id = a.instanceId) :
    ∃ b, ((handle env m (.resolveAlert a.id)).run s).1 =
      if inScope (accessibleClientIds m) s.view i.clientId then .ok (.alert b)
      else .error forbidden := by
  have hget : (dbGet (·.alerts) a.id).run s = _ := dbGet_found ha
  have hinst : s.view.instances.find? a.instanceId = some i := Table.find?_eq_some.mpr ⟨hi, hai⟩
  obtain ⟨b, s', hresolve⟩ := resolveAlert_answers env ha hid
  simp only [Alert.row_id, if_pos hid] at hget
  refine ⟨b, ?_⟩
  simp only [handle, AlertController.resolveAlert, run_bind, hget, view_run, hinst,
    assertClientIdAccess_run]
  by_cases hscope : inScope (accessibleClientIds m) s.view i.clientId <;> simp [hscope, hresolve]

end

-- ---------------------------------------------------------------------------
-- Pages
-- ---------------------------------------------------------------------------

/-- Some page the calls answer has the row. -/
def Shown (s : Session) (call : PageParam → Svc (Page α)) (r : α) : Prop :=
  ∃ page p, (call page).run s = (.ok p, s) ∧ r ∈ p.items

theorem offset_lt {α : Type} {rows : List α} {page size : ℕ} {r : α}
    (h : r ∈ window rows page size) : (page - 1) * size < rows.length := by
  have hpos : 0 < (rows.drop ((page - 1) * size)).length :=
    List.length_pos_of_mem (List.mem_of_mem_take h)
  rw [List.length_drop] at hpos
  omega

theorem Lists.shown_iff {α : Type} {s : Session} {rows : List α} {size : SizeParam}
    {call : ℕ → Svc (Page α)} {r : α}
    (h : Lists s rows size.val (fun page => [offset size.val page]) call)
    (hrows : int64 rows.length) : Shown s (fun page => call page.val) r ↔ r ∈ rows := by
  constructor
  · rintro ⟨page, p, hp, hr⟩
    rw [h.page_eq hp] at hr
    exact mem_window hr
  · intro hr
    obtain ⟨page, hpage⟩ := exists_page hr size
    refine ⟨page, _, h.answered ?_, hpage⟩
    have hlt := offset_lt hpage
    simp only [List.forall_mem_singleton, int64, offset] at hrows ⊢
    omega

/-- Of rows that come from a table, every one is shown. -/
theorem Lists.shown_table {α : Type} [Row α] {s : Session} {rows : List α} {size : SizeParam}
    {call : ℕ → Svc (Page α)} {t : Table α} {p : α → Bool}
    (h : Lists s rows size.val (fun page => [offset size.val page]) call) (ht : t.Stored)
    (hrows : rows.Perm (t.rows.filter p)) (r : α) :
    Shown s (fun page => call page.val) r ↔ r ∈ t ∧ p r = true := by
  have hlength : int64 rows.length := by
    have hle := List.length_filter_le p t.rows
    have hcount := ht.2
    rw [hrows.length_eq]
    simp only [int64] at hcount ⊢
    omega
  rw [h.shown_iff hlength, hrows.mem_iff, List.mem_filter]
  exact Iff.rfl

section
variable {clientIds : Option Select} {db : Database} {s : Session} {size : SizeParam}

/-- With its instance in the table, an alert needs no join to be found. -/
theorem alertVisible_iff {a : Alert} {i : Instance} (hi : i ∈ db.instances)
    (hai : i.id = a.instanceId) :
    alertVisible clientIds db a = true ↔ inScope clientIds db i.clientId = true := by
  have hfind : db.instances.find? a.instanceId = some i := Table.find?_eq_some.mpr ⟨hi, hai⟩
  cases clientIds with
  | none => simp [alertVisible, inScope]
  | some scope => simp [alertVisible, alertInScope, hfind]

theorem shown_client (hs : s.view.Stored) (c : Client) :
    Shown s (fun page => listClients clientIds page.val size.val) c ↔
      c ∈ s.view.clients ∧ inScope clientIds s.view c.id = true :=
  (listClients_lists clientIds size.val s).shown_table hs.clients (.refl _) c

theorem shown_instance (hs : s.view.Stored) (sort : String) (i : Instance) :
    Shown s (fun page => listInstances clientIds page.val size.val {} sort) i ↔
      i ∈ s.view.instances ∧ inScope clientIds s.view i.clientId = true :=
  (listInstances_lists clientIds size.val {} sort s).shown_table hs.instances
    (instancesQuery_perm clientIds sort s.view) i

theorem shown_alert (hs : s.view.Stored) (a : Alert) :
    Shown s (fun page => listAlerts clientIds page.val size.val {}) a ↔
      a ∈ s.view.alerts ∧ alertVisible clientIds s.view a = true :=
  (listAlerts_lists clientIds size.val {} s).shown_table hs.alerts
    (alertsQuery_perm clientIds s.view) a

end

-- ---------------------------------------------------------------------------
-- The two paths agree
-- ---------------------------------------------------------------------------

/-- In every reachable database a guard lets through exactly the rows that the
caller's listings show. -/
theorem enforcement_paths_agree (env : Env) (w : World) (h : Reachable env w)
    (hs : w.db.Stored) (m : Member) (hm : m ∈ w.db.members) (size : SizeParam) :
    (∀ c ∈ w.db.clients,
      (((assertClientAccess m c).run w.session).1 = .ok () ↔
        ((assertClientIdAccess m c.id).run w.session).1 = .ok ()) ∧
      (((assertClientIdAccess m c.id).run w.session).1 = .ok () ↔
        Shown w.session (fun page => listClients (accessibleClientIds m) page.val size.val) c)) ∧
    (∀ i ∈ w.db.instances, ∀ sort : String,
      ((serve env m.id (.ofMember (.getInstance i.id)) w).1 = .ok (.inst i) ↔
        Shown w.session
          (fun page => listInstances (accessibleClientIds m) page.val size.val {} sort) i) ∧
      ((serve env m.id (.ofMember (.getInstance i.id)) w).1 = .error forbidden ↔
        ¬Shown w.session
          (fun page => listInstances (accessibleClientIds m) page.val size.val {} sort) i)) ∧
    (∀ a ∈ w.db.alerts,
      ((∃ b, (serve env m.id (.ofMember (.resolveAlert a.id)) w).1 = .ok (.alert b)) ↔
        Shown w.session (fun page => listAlerts (accessibleClientIds m) page.val size.val {}) a) ∧
      ((serve env m.id (.ofMember (.resolveAlert a.id)) w).1 = .error forbidden ↔
        ¬Shown w.session
          (fun page => listAlerts (accessibleClientIds m) page.val size.val {}) a)) := by
  have hmid : int64 m.id := hs.members.1 m hm
  refine ⟨fun c hc => ?_, fun i hi sort => ?_, fun a ha => ?_⟩
  · have hshown : Shown w.session
        (fun page => listClients (accessibleClientIds m) page.val size.val) c ↔
        inScope (accessibleClientIds m) w.session.view c.id = true :=
      (shown_client (s := w.session) hs c).trans (and_iff_right hc)
    rw [hshown, assertClientAccess_run (s := w.session) hc, assertClientIdAccess_run]
    by_cases hscope : inScope (accessibleClientIds m) w.session.view c.id = true <;> simp [hscope]
  · have hshown : Shown w.session
        (fun page => listInstances (accessibleClientIds m) page.val size.val {} sort) i ↔
        inScope (accessibleClientIds m) w.session.view i.clientId = true :=
      (shown_instance (s := w.session) hs sort i).trans (and_iff_right hi)
    rw [hshown, serve_reply hm, if_pos hmid,
      handle_getInstance (s := w.session) hi (hs.instances.1 i hi)]
    by_cases hscope : inScope (accessibleClientIds m) w.session.view i.clientId = true <;>
      simp [hscope]
  · obtain ⟨i, hi, hai⟩ := Table.mem_ids.mp (h.wellFormed.alert_instance a ha)
    have hshown : Shown w.session
        (fun page => listAlerts (accessibleClientIds m) page.val size.val {}) a ↔
        inScope (accessibleClientIds m) w.session.view i.clientId = true :=
      (shown_alert (s := w.session) hs a).trans
        ((and_iff_right ha).trans (alertVisible_iff hi hai))
    obtain ⟨b, hb⟩ := handle_resolveAlert (s := w.session) env m ha (hs.alerts.1 a ha) hi hai
    rw [hshown, serve_reply hm, if_pos hmid, hb]
    by_cases hscope : inScope (accessibleClientIds m) w.session.view i.clientId = true <;>
      simp [hscope]

theorem seeded_stored : (seeded (.every 1)).db.Stored where
  members := by decide +kernel
  clients := by decide +kernel
  instances := by decide +kernel
  alerts := by decide +kernel

theorem enforcement_paths_agree_seeded :
    (((assertClientAccess manager1 vinaSoft).run (seeded (.every 1)).session).1 = .ok () ↔
      ((assertClientIdAccess manager1 vinaSoft.id).run (seeded (.every 1)).session).1 = .ok ()) ∧
    (((assertClientIdAccess manager1 vinaSoft.id).run (seeded (.every 1)).session).1 = .ok () ↔
      Shown (seeded (.every 1)).session
        (fun page => listClients (accessibleClientIds manager1) page.val defaultSize) vinaSoft) :=
  (enforcement_paths_agree _ _ ⟨_, .start⟩ seeded_stored manager1 manager1_seeded {}).1 vinaSoft
    vinaSoft_seeded

end CloudMonitor
