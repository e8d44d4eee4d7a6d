import CloudMonitor.Api

/-!
# The seeded database

What the first start of the application writes: three members, ten clients
and their fifteen instances. The monthly snapshots it also writes are read by
nothing.
-/

namespace CloudMonitor

open Fallible

def addMember (env : Env) (email password name : String) (role : Role) : Svc Member :=
  insertRow env (·.members) (fun db t => { db with members := t })
    (fun id _ =>
      { id := id, email := email, password := env.hashPassword password, name := name
        role := role })

def addClient (env : Env) (clientName : String) (contractPlan : ContractPlan) (managerId : ℤ) :
    Svc Client :=
  insertRow env (·.clients) (fun db t => { db with clients := t })
    (fun id createdAt =>
      { id := id, clientName := clientName, contractPlan := contractPlan, managerId := managerId
        createdAt := createdAt })

structure ClientSpec where
  clientName : String
  contractPlan : ContractPlan
  managerId : ℤ

structure InstanceSpec where
  instanceName : String
  region : String
  instanceType : InstanceType
  status : InstanceStatus
  cpuUsage : ℚ
  launchedDays : ℤ
  updatedHours : ℤ

/-- Both timestamps are given, so the column defaults are not used. -/
def addInstance (env : Env) (now : ℤ) (client : Client) (spec : InstanceSpec) : Svc Unit := do
  let _ ← insertRow env (·.instances) (fun db t => { db with instances := t })
    (fun id _ =>
      { id := id
        instanceName := spec.instanceName
        region := spec.region
        instanceType := spec.instanceType
        status := spec.status
        cpuUsage := spec.cpuUsage
        monthlyCost := env.settings.unitPrices spec.instanceType
        clientId := client.id
        launchedAt := now - spec.launchedDays * dayMicros
        updatedAt := now - hours spec.updatedHours })

def clientSpecs (manager1 manager2 : ℤ) : List ClientSpec :=
  [⟨"VinaSoft", .premium, manager1⟩,
    ⟨"Hanoi Logistics", .standard, manager1⟩,
    ⟨"Saigon Retail", .basic, manager1⟩,
    ⟨"Mekong Foods", .standard, manager1⟩,
    ⟨"DaNang Media", .basic, manager1⟩,
    ⟨"VN FinTech", .premium, manager2⟩,
    ⟨"EduViet", .standard, manager2⟩,
    ⟨"GreenEnergy VN", .basic, manager2⟩,
    ⟨"HealthPlus", .premium, manager2⟩,
    ⟨"TravelGo", .standard, manager2⟩]

def instanceSpecs : List (List InstanceSpec) :=
  [[⟨"vinasoft-web-01", "ap-southeast-1", .large, .running, 91.5, 90, 1⟩,
      ⟨"vinasoft-db-01", "ap-southeast-1", .large, .running, 64, 90, 2⟩,
      ⟨"vinasoft-batch-01", "ap-northeast-2", .medium, .stopped, 0, 60, 72⟩],
    [⟨"hnlog-api-01", "ap-southeast-1", .medium, .running, 85.2, 45, 3⟩,
      ⟨"hnlog-worker-01", "ap-southeast-1", .small, .error, 0, 45, 6⟩],
    [⟨"sgretail-pos-01", "ap-southeast-1", .small, .running, 42.7, 30, 1⟩,
      ⟨"sgretail-report-01", "ap-southeast-1", .small, .stopped, 0, 30, 120⟩],
    [⟨"mekong-erp-01", "ap-southeast-1", .medium, .running, 55.1, 20, 2⟩],
    [⟨"dnmedia-stream-01", "ap-northeast-2", .large, .error, 0, 15, 12⟩],
    [⟨"fintech-core-01", "ap-southeast-1", .large, .running, 78.9, 120, 1⟩,
      ⟨"fintech-core-02", "ap-southeast-1", .large, .running, 88.4, 120, 1⟩],
    [⟨"eduviet-lms-01", "ap-southeast-1", .medium, .running, 33, 25, 4⟩],
    [⟨"green-iot-01", "ap-northeast-2", .small, .stopped, 0, 50, 96⟩],
    [⟨"health-api-01", "ap-southeast-1", .medium, .running, 96.3, 70, 1⟩],
    [⟨"travelgo-web-01", "ap-southeast-1", .small, .running, 12.5, 10, 1⟩]]

def addClients (env : Env) : List ClientSpec → Svc (List Client)
  | [] => return []
  | spec :: specs => do
    let client ← addClient env spec.clientName spec.contractPlan spec.managerId
    return client :: (← addClients env specs)

def instancesOf (clients : List Client) : List (Client × InstanceSpec) :=
  (clients.zip instanceSpecs).flatMap fun p => p.2.map fun spec => (p.1, spec)

def seedRows (env : Env) : Svc Unit := do
  let now ← utcnow env
  let _admin ← addMember env "admin@techvalley.vn" "admin123!" "TechValley Admin" .admin
  let manager1 ← addMember env "lam@techvalley.vn" "manager123!" "Thai Van Lam" .clientManager
  let manager2 ← addMember env "minh@techvalley.vn" "manager123!" "Nguyen Minh" .clientManager
  let clients ← addClients env (clientSpecs manager1.id manager2.id)
  each (fun p => addInstance env now p.1 p.2) (instancesOf clients)
  commit

def seed (env : Env) : Svc Unit := do
  if !(← view).members.rows.isEmpty then return () else seedRows env

def seeded (env : Env) : World :=
  ((seed env).run (World.session { db := Database.empty, tick := 0 })).2.world

-- ---------------------------------------------------------------------------
-- What the seed guarantees
-- ---------------------------------------------------------------------------

structure Seeding (db : Database) : Prop where
  instance_client : ∀ i ∈ db.instances, i.clientId ∈ db.clients.ids
  instance_pos : ∀ i ∈ db.instances, 0 < i.id
  instance_cpu : ∀ i ∈ db.instances, 0 ≤ i.cpuUsage ∧ i.cpuUsage ≤ 100
  client_manager : ∀ c ∈ db.clients, ∃ m ∈ db.members, m.id = c.managerId ∧ m.role = .clientManager
  no_alerts : db.alerts = ∅

/-- `x` does not fail, keeps `Seeding` and every member and client there is. -/
def Seeds (x : Svc α) (s : Session) (Q : α → Database → Prop) : Prop :=
  Triple x s
    (fun a s' => Seeding s'.view ∧ (∀ m ∈ s.view.members, m ∈ s'.view.members) ∧
      (∀ c ∈ s.view.clients, c ∈ s'.view.clients) ∧ Q a s'.view)
    (fun _ _ => False)

theorem Seeds.bind {x : Svc α} {f : α → Svc β} {Q : α → Database → Prop} {R : β → Database → Prop}
    (hx : Seeds x s Q)
    (hf : ∀ a s', Seeding s'.view → (∀ m ∈ s.view.members, m ∈ s'.view.members) →
      (∀ c ∈ s.view.clients, c ∈ s'.view.clients) → Q a s'.view → Seeds (f a) s' R) :
    Seeds (x >>= f) s R := by
  refine Triple.bind hx ?_
  rintro a s' ⟨hs, hm, hc, hq⟩
  refine (hf a s' hs hm hc hq).mono ?_ (fun _ _ h => h)
  rintro b s'' ⟨hs', hm', hc', hr⟩
  exact ⟨hs', fun m h => hm' m (hm m h), fun c h => hc' c (hc c h), hr⟩

theorem addMember_seeds (env : Env) (email password name : String) (role : Role)
    (h : Seeding s.view) :
    Seeds (addMember env email password name role) s
      (fun m db => m ∈ db.members ∧ m.role = role) := by
  refine Triple.of_ok rfl ⟨?_, ?_, fun _ h => h, Table.mem_insertNew.mpr (.inl rfl), rfl⟩
  · refine { h with client_manager := fun c hc => ?_ }
    obtain ⟨m, hm, hrest⟩ := h.client_manager c hc
    exact ⟨m, Table.mem_insertNew.mpr (.inr hm), hrest⟩
  · exact fun m hm => Table.mem_insertNew.mpr (.inr hm)

theorem addClient_seeds (env : Env) (spec : ClientSpec) (h : Seeding s.view)
    (hm : ∃ m ∈ s.view.members, m.id = spec.managerId ∧ m.role = .clientManager) :
    Seeds (addClient env spec.clientName spec.contractPlan spec.managerId) s
      (fun c db => c ∈ db.clients) := by
  refine Triple.of_ok rfl ⟨?_, fun _ h => h, fun c hc => Table.mem_insertNew.mpr (.inr hc),
    Table.mem_insertNew.mpr (.inl rfl)⟩
  refine { h with instance_client := fun i hi => ?_, client_manager := fun c hc => ?_ }
  · obtain ⟨c, hc, hid⟩ := Table.mem_ids.mp (h.instance_client i hi)
    exact Table.mem_ids.mpr ⟨c, Table.mem_insertNew.mpr (.inr hc), hid⟩
  · rcases Table.mem_insertNew.mp hc with rfl | hc
    · exact hm
    · exact h.client_manager c hc

theorem addClients_seeds (env : Env) (specs : List ClientSpec) (h : Seeding s.view)
    (hm : ∀ spec ∈ specs, ∃ m ∈ s.view.members, m.id = spec.managerId ∧ m.role = .clientManager) :
    Seeds (addClients env specs) s (fun cs db => ∀ c ∈ cs, c ∈ db.clients) := by
  induction specs generalizing s with
  | nil => exact Triple.pure ⟨h, fun _ h => h, fun _ h => h, by simp⟩
  | cons spec specs ih =>
    refine Seeds.bind (addClient_seeds env spec h (hm spec (by simp))) fun c s' h' hm' _ hc => ?_
    refine Seeds.bind (ih h' fun sp hsp => ?_) fun cs s'' h'' _ hkeep hcs => ?_
    · obtain ⟨m, hm₀, hrest⟩ := hm sp (by simp [hsp])
      exact ⟨m, hm' m hm₀, hrest⟩
    · refine Triple.pure ⟨h'', fun _ h => h, fun _ h => h, fun x hx => ?_⟩
      rcases List.mem_cons.mp hx with rfl | hx
      · exact hkeep x hc
      · exact hcs x hx

theorem addInstances_seeds (env : Env) (now : ℤ) (pairs : List (Client × InstanceSpec))
    (h : Seeding s.view) (hc : ∀ p ∈ pairs, p.1 ∈ s.view.clients)
    (hcpu : ∀ p ∈ pairs, 0 ≤ p.2.cpuUsage ∧ p.2.cpuUsage ≤ 100) :
    Seeds (each (fun p => addInstance env now p.1 p.2) pairs) s (fun _ _ => True) := by
  induction pairs generalizing s with
  | nil => exact Triple.pure ⟨h, fun _ h => h, fun _ h => h, trivial⟩
  | cons p ps ih =>
    have hp : Seeds (addInstance env now p.1 p.2) s (fun _ _ => True) := by
      refine Triple.of_ok rfl ⟨?_, fun _ h => h, fun _ h => h, trivial⟩
      refine { h with
        instance_client := fun i hi => ?_
        instance_pos := fun i hi => ?_
        instance_cpu := fun i hi => ?_ }
      · rcases Table.mem_insertNew.mp hi with rfl | hi
        · exact Table.mem_ids.mpr ⟨p.1, hc p (by simp), rfl⟩
        · exact h.instance_client i hi
      · rcases Table.mem_insertNew.mp hi with rfl | hi
        · exact env.newId_pos _ _
        · exact h.instance_pos i hi
      · rcases Table.mem_insertNew.mp hi with rfl | hi
        · exact hcpu p (by simp)
        · exact h.instance_cpu i hi
    exact Seeds.bind hp fun _ s' h' _ hkeep _ =>
      ih h' (fun q hq => hkeep _ (hc q (by simp [hq]))) fun q hq => hcpu q (by simp [hq])

theorem clientSpecs_managerId {a b : ℤ} (h : spec ∈ clientSpecs a b) :
    spec.managerId = a ∨ spec.managerId = b := by
  simp only [clientSpecs, List.mem_cons, List.not_mem_nil, or_false] at h
  rcases h with rfl | rfl | rfl | rfl | rfl | rfl | rfl | rfl | rfl | rfl <;> simp

theorem instanceSpecs_cpuUsage :
    ∀ specs ∈ instanceSpecs, ∀ spec ∈ specs, 0 ≤ spec.cpuUsage ∧ spec.cpuUsage ≤ 100 := by
  decide +kernel

theorem mem_instancesOf {clients : List Client} (h : p ∈ instancesOf clients) :
    p.1 ∈ clients ∧ 0 ≤ p.2.cpuUsage ∧ p.2.cpuUsage ≤ 100 := by
  obtain ⟨⟨c, specs⟩, hc, hp⟩ := List.mem_flatMap.mp h
  obtain ⟨spec, hspec, rfl⟩ := List.mem_map.mp hp
  obtain ⟨hc, hspecs⟩ := List.of_mem_zip hc
  exact ⟨hc, instanceSpecs_cpuUsage specs hspecs spec hspec⟩

theorem seedRows_triple (env : Env) (s : Session) (h : Seeding s.view) :
    Triple (seedRows env) s (fun _ s' => Seeding s'.committed) (fun _ _ => False) := by
  have h₀ : Seeding ({ s with tick := s.tick + 1 } : Session).view := h
  refine utcnow_bind (Triple.bind (addMember_seeds env _ _ _ _ h₀) ?_)
  rintro _ s₁ ⟨h₁, -, -, -⟩
  refine Triple.bind (addMember_seeds env _ _ _ _ h₁) ?_
  rintro manager1 s₂ ⟨h₂, -, -, hm₁, hr₁⟩
  refine Triple.bind (addMember_seeds env _ _ _ _ h₂) ?_
  rintro manager2 s₃ ⟨h₃, hkeep, -, hm₂, hr₂⟩
  refine Triple.bind (addClients_seeds env _ h₃ fun spec hspec => ?_) ?_
  · rcases clientSpecs_managerId hspec with hid | hid
    · exact ⟨manager1, hkeep _ hm₁, hid.symm, hr₁⟩
    · exact ⟨manager2, hm₂, hid.symm, hr₂⟩
  rintro clients s₄ ⟨h₄, -, -, hcs⟩
  refine Triple.bind (addInstances_seeds env _ _ h₄ (fun p hp => hcs _ (mem_instancesOf hp).1)
    fun p hp => (mem_instancesOf hp).2) ?_
  rintro _ s₅ ⟨h₅, -⟩
  exact ⟨h₅⟩

theorem seeded_seeding (env : Env) : Seeding (seeded env).db := by
  have hempty : Seeding Database.empty :=
    ⟨by simp [Database.empty], by simp [Database.empty], by simp [Database.empty],
      by simp [Database.empty], rfl⟩
  have h : Triple (seed env) (World.session { db := Database.empty, tick := 0 })
      (fun _ s' => Seeding s'.committed) (fun _ s' => Seeding s'.committed) := by
    refine view_bind (Triple.ite (fun hne => ?_) (fun _ => ?_))
    · exact absurd hne (by decide)
    · exact (seedRows_triple env _ hempty).mono (fun _ _ h => h) (fun _ _ h => h.elim)
  simp only [seeded, Session.world]
  exact Triple.state (P := fun s : Session => Seeding s.committed) h

-- The two managers of the seed, with the ids SQLite gives them.

def manager1 : Member := ⟨2, "lam@techvalley.vn", "manager123!", "Thai Van Lam", .clientManager⟩

def manager2 : Member := ⟨3, "minh@techvalley.vn", "manager123!", "Nguyen Minh", .clientManager⟩

theorem manager1_seeded : manager1 ∈ (seeded (.every 1)).db.members := by decide +kernel

theorem manager2_seeded : manager2 ∈ (seeded (.every 1)).db.members := by decide +kernel

-- The first client, of `manager1`. The fourth reading of the clock stamps it.

def vinaSoft : Client := ⟨1, "VinaSoft", .premium, 2, 4⟩

theorem vinaSoft_seeded : vinaSoft ∈ (seeded (.every 1)).db.clients := by decide +kernel

end CloudMonitor
