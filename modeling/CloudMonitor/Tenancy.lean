import CloudMonitor.Integrity

/-!
# Tenants

A `CLIENT_MANAGER`'s requests change nothing outside the clients assigned to
them and are answered as if nothing outside existed. The first is read off
the effect a request has; the second compares two runs of one request.
-/

namespace CloudMonitor

open Fallible

def Manages (m : Member) (db : Database) (clientId : ℤ) : Prop :=
  ∃ c ∈ db.clients, c.managerId = m.id ∧ c.id = clientId

def ManagesAlert (m : Member) (db : Database) (a : Alert) : Prop :=
  ∃ i ∈ db.instances, i.id = a.instanceId ∧ Manages m db i.clientId

-- ---------------------------------------------------------------------------
-- Writing
-- ---------------------------------------------------------------------------

/-- What a manager's request may do to the tables: nothing to members and
clients, and to instances and alerts only where they manage the client. -/
structure StaysInside (m : Member) (db db' : Database) : Prop where
  members : db'.members = db.members
  clients : db'.clients = db.clients
  instances : ∀ i, ¬Manages m db i.clientId → (i ∈ db'.instances ↔ i ∈ db.instances)
  alerts : ∀ a, ∀ i ∈ db.instances, i.id = a.instanceId → ¬Manages m db i.clientId →
    (a ∈ db'.alerts ↔ a ∈ db.alerts)
  instances_new : ∀ i ∈ db'.instances, i ∉ db.instances → Manages m db i.clientId
  alerts_new : ∀ a ∈ db'.alerts, a ∉ db.alerts → ManagesAlert m db a

theorem Effect.staysInside (h : Effect env (accessibleClientIds m) w w') (hm : m.role ≠ .admin)
    (wf : WellFormed env w) : StaysInside m w.db w'.db := by
  have hown {c : ℤ} : inScope (accessibleClientIds m) w.db c = true ↔ Manages m w.db c :=
    inScope_manager hm
  cases h with
  | idle => exact ⟨rfl, rfl, by simp, by simp, fun _ h hn => absurd h hn, fun _ h hn => absurd h hn⟩
  | createClient _ _ hadmin => simp [accessibleClientIds, hm] at hadmin
  | createInstance i fresh _ hscope =>
    refine ⟨rfl, rfl, fun j hj => ?_, by simp, fun j hj hnew => ?_, fun _ h hn => absurd h hn⟩
    · refine (Table.mem_insert fresh).trans (or_iff_right ?_)
      rintro rfl
      exact hj (hown.mp hscope)
    · obtain rfl := ((Table.mem_insert fresh).mp hj).resolve_right hnew
      exact hown.mp hscope
  | updateStatus i hi data hscope =>
    refine ⟨rfl, rfl, fun j hj => ?_, by simp, ?_, fun _ h hn => absurd h hn⟩
    · refine Table.mem_update_frame hi rfl ?_ ?_ <;> rintro rfl <;> exact hj (hown.mp hscope)
    · exact Table.forall_mem_update (fun _ => hown.mp hscope) fun _ h hn => absurd h hn
  | deleteInstance i hi hscope =>
    refine ⟨rfl, rfl, fun j hj => ?_, fun a j hj hid hman => ?_, fun j hj hnew => ?_,
      fun a ha hnew => ?_⟩
    · refine Table.mem_delete.trans (and_iff_left_of_imp fun h => ?_)
      simp only [beq_eq_false_iff_ne]
      intro hid
      rw [Table.unique h hi hid] at hj
      exact hj (hown.mp hscope)
    · refine Table.mem_delete.trans (and_iff_left ?_)
      simp only [beq_eq_false_iff_ne]
      intro hai
      rw [Table.unique hj hi (hid.trans hai)] at hman
      exact hman (hown.mp hscope)
    · exact absurd (Table.mem_delete.mp hj).1 hnew
    · exact absurd (Table.mem_delete.mp ha).1 hnew
  | scan job hscope =>
    refine ⟨rfl, rfl, by simp, fun a j hj hid hman => ⟨fun ha => ?_, mem_addAlerts_of_mem⟩,
      fun _ h hn => absurd h hn, fun a ha hnew => ?_⟩
    · rcases mem_scan ha with ha | ⟨⟨i, hi, hquery, hai⟩, -⟩
      · exact ha
      · rw [Table.unique hj hi (hid.trans hai.symm)] at hman
        exact absurd (hown.mp (hscope i hquery)) hman
    · obtain ⟨⟨i, hi, hquery, hai⟩, -⟩ := (mem_scan ha).resolve_left hnew
      exact ⟨i, hi, hai, hown.mp (hscope i hquery)⟩
  | resolveAlert b hb _ hscope =>
    -- in a well-formed database the resolved alert has an instance, and it is in scope
    obtain ⟨k, hk, hkid⟩ := Table.mem_ids.mp (wf.alert_instance b hb)
    have hkm : Manages m w.db k.clientId := hown.mp (hscope k hk hkid)
    refine ⟨rfl, rfl, by simp, fun a j hj hid hman => ?_, fun _ h hn => absurd h hn, ?_⟩
    · have hne : a.instanceId ≠ b.instanceId := by
        intro hai
        rw [Table.unique hj hk (hid.trans (hai.trans hkid.symm))] at hman
        exact hman hkm
      refine Table.mem_update_frame hb rfl ?_ ?_ <;> rintro rfl <;> exact hne rfl
    · exact Table.forall_mem_update (fun _ => ⟨k, hk, hkid, hkm⟩) fun _ h hn => absurd h hn

theorem serve_staysInside (env : Env) (w : World) (m : Member) (req : Request) (h : Reachable env w)
    (hm : m ∈ w.db.members) (hrole : m.role = .clientManager) :
    StaysInside m w.db (serve env m.id req w).2.db := by
  refine (serve_effect env req w hm).staysInside ?_ h.wellFormed
  simp [hrole]

theorem serve_staysInside_seeded :
    StaysInside manager1 (seeded (.every 1)).db
      (serve (.every 1) manager1.id (.ofMember (.errors ⟨1, by decide⟩ ⟨10, by decide, by decide⟩))
        (seeded (.every 1))).2.db :=
  serve_staysInside (.every 1) _ _ _ ⟨_, .start⟩ manager1_seeded rfl

-- ---------------------------------------------------------------------------
-- Reading
-- ---------------------------------------------------------------------------

/-- Two databases that show `m` the same: the rows of `m`, of the clients
assigned to them, and of those clients' instances and alerts. -/
structure Agree (m : Member) (db db' : Database) : Prop where
  member : m ∈ db.members
  member' : m ∈ db'.members
  clients : ∀ c, c.managerId = m.id → (c ∈ db.clients ↔ c ∈ db'.clients)
  instances : ∀ i, Manages m db i.clientId → (i ∈ db.instances ↔ i ∈ db'.instances)
  alerts : ∀ a, ManagesAlert m db a → (a ∈ db.alerts ↔ a ∈ db'.alerts)

section
variable {m : Member} {db db' : Database}

theorem Agree.manages (h : Agree m db db') (c : ℤ) : Manages m db c ↔ Manages m db' c :=
  exists_congr fun r => and_congr_left fun hr => h.clients r hr.1

theorem Agree.managesAlert (h : Agree m db db') (a : Alert) :
    ManagesAlert m db a ↔ ManagesAlert m db' a := by
  constructor
  · rintro ⟨i, hi, hid, hman⟩
    exact ⟨i, (h.instances i hman).mp hi, hid, (h.manages _).mp hman⟩
  · rintro ⟨i, hi, hid, hman⟩
    have hman' := (h.manages _).mpr hman
    exact ⟨i, (h.instances i hman').mpr hi, hid, hman'⟩

theorem StaysInside.agree {m' : Member} (h : StaysInside m' db db') (hne : m.id ≠ m'.id)
    (hm : m ∈ db.members) : Agree m db db' := by
  have hother : ∀ c, Manages m db c → ¬Manages m' db c := by
    rintro c ⟨r, hr, hman, hid⟩ ⟨r', hr', hman', hid'⟩
    rw [Table.unique hr hr' (hid.trans hid'.symm)] at hman
    exact hne (hman.symm.trans hman')
  refine ⟨hm, h.members ▸ hm, fun c _ => by rw [h.clients], fun i hi => ?_, fun a ha => ?_⟩
  · exact (h.instances i (hother _ hi)).symm
  · obtain ⟨i, hi, hid, hman⟩ := ha
    exact (h.alerts a i hi hid (hother _ hman)).symm

theorem Agree.instances_filter (h : Agree m db db') {p q : Instance → Bool} (hpq : p = q)
    (hp : ∀ i, p i = true → Manages m db i.clientId) :
    db.instances.rows.filter p = db'.instances.rows.filter q := by
  subst hpq
  exact Table.filter_congr_mem fun i hi => h.instances i (hp i hi)

theorem Agree.find?_client (h : Agree m db db') {c : ℤ} (hc : Manages m db c) :
    db.clients.find? c = db'.clients.find? c := by
  obtain ⟨r, hr, hman, hid⟩ := hc
  rw [Table.find?_eq_some.mpr ⟨hr, hid⟩, Table.find?_eq_some.mpr ⟨(h.clients r hman).mp hr, hid⟩]

theorem Agree.clientInstancesQuery_eq (h : Agree m db db') {c : ℤ} (hc : Manages m db c) :
    clientInstancesQuery c db = clientInstancesQuery c db' :=
  Table.filter_congr_mem fun i hi => h.instances i (by rwa [beq_iff_eq.mp hi])

theorem Agree.runningCounts_eq (h : Agree m db db') {c : ℤ} (hc : Manages m db c) :
    runningCounts c db = runningCounts c db' := by
  unfold runningCounts
  congr 1
  funext t
  rw [Table.filter_congr_mem (u := db'.instances) fun i hi => h.instances i ?_]
  simp only [Bool.and_eq_true, beq_iff_eq] at hi
  rwa [hi.1.1]

variable (hm : m.role ≠ .admin)
include hm

theorem Agree.inScope_eq (h : Agree m db db') (c : ℤ) :
    inScope (accessibleClientIds m) db c = inScope (accessibleClientIds m) db' c := by
  rw [Bool.eq_iff_iff, inScope_manager hm, inScope_manager hm]
  exact h.manages c

theorem alertInScope_iff (a : Alert) :
    alertInScope (accessibleClientIds m) db a = true ↔ ManagesAlert m db a := by
  simp only [alertInScope, Option.any_eq_true, inScope_manager hm]
  constructor
  · rintro ⟨i, hi, hman⟩
    obtain ⟨hi, hid⟩ := Table.find?_eq_some.mp hi
    exact ⟨i, hi, hid, hman⟩
  · rintro ⟨i, hi, hid, hman⟩
    exact ⟨i, Table.find?_eq_some.mpr ⟨hi, hid⟩, hman⟩

theorem Agree.instancesQuery_eq (h : Agree m db db') (f : InstanceFilter) (sort : String) :
    instancesQuery (accessibleClientIds m) f sort db =
      instancesQuery (accessibleClientIds m) f sort db' := by
  refine congrArg (List.insertionSort _) (h.instances_filter ?_ fun i hi => ?_)
  · simp only [h.inScope_eq hm]
  · exact (inScope_manager hm).mp (Bool.and_eq_true_iff.mp hi).1

theorem Agree.visibleInstances_eq (h : Agree m db db') :
    visibleInstances (accessibleClientIds m) db = visibleInstances (accessibleClientIds m) db' := by
  refine h.instances_filter ?_ fun i hi => (inScope_manager hm).mp hi
  simp only [h.inScope_eq hm]

theorem Agree.scanMatches_eq (h : Agree m db db') {job : ScanJob}
    (hjob : job.clientIds = accessibleClientIds m) : scanMatches job db = scanMatches job db' := by
  refine h.instances_filter ?_ fun i hi => ?_
  · simp only [ScanJob.query, hjob, h.inScope_eq hm]
  · simp only [ScanJob.query, hjob, Bool.and_eq_true] at hi
    exact (inScope_manager hm).mp hi.1.2

theorem Agree.scopedAlerts_eq (h : Agree m db db') :
    scopedAlerts (accessibleClientIds m) db = scopedAlerts (accessibleClientIds m) db' := by
  have hscope :
      alertInScope (accessibleClientIds m) db = alertInScope (accessibleClientIds m) db' := by
    funext a
    rw [Bool.eq_iff_iff, alertInScope_iff hm, alertInScope_iff hm]
    exact h.managesAlert a
  rw [CloudMonitor.scopedAlerts_eq, CloudMonitor.scopedAlerts_eq, ← hscope]
  exact Table.filter_congr_mem fun a ha => h.alerts a ((alertInScope_iff hm a).mp ha)

theorem Agree.alertsQuery_eq (h : Agree m db db') (f : AlertFilter) :
    alertsQuery (accessibleClientIds m) f db = alertsQuery (accessibleClientIds m) f db' := by
  have hscoped : (accessibleClientIds m).isSome = true := by simp [accessibleClientIds, hm]
  simp only [alertsQuery, hscoped, if_true, h.scopedAlerts_eq hm]

theorem mem_clientsQuery {c : Client} :
    c ∈ clientsQuery (accessibleClientIds m) db ↔ c ∈ db.clients ∧ c.managerId = m.id := by
  simp only [clientsQuery, List.mem_filter, inScope_manager hm]
  refine and_congr_right fun hc => ?_
  constructor
  · rintro ⟨r, hr, hman, hid⟩
    rwa [Table.unique hr hc hid] at hman
  · intro hman
    exact ⟨c, hc, hman, rfl⟩

theorem Agree.clientsQuery_eq (h : Agree m db db') :
    clientsQuery (accessibleClientIds m) db = clientsQuery (accessibleClientIds m) db' := by
  unfold clientsQuery
  simp only [← h.inScope_eq hm]
  refine Table.filter_congr_mem fun c hc => ?_
  -- a row in scope shares its id with one of the manager's, so it is that one
  obtain ⟨r, hr, hman, hid⟩ := (inScope_manager hm).mp hc
  constructor
  · intro hcdb
    rw [← Table.unique hr hcdb hid]
    exact (h.clients r hman).mp hr
  · intro hcdb
    rw [← Table.unique ((h.clients r hman).mp hr) hcdb hid]
    exact hr

end

end CloudMonitor
