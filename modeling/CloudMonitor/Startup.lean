import CloudMonitor.Costs
import CloudMonitor.Dates
import CloudMonitor.Lib.Schedule

/-!
# Starting up

The whole of `seed`, with the monthly snapshots it writes, and what becomes of
it when several workers start at once on one database: each looks for a member
first and writes later, and only the unique emails of the members stop the
second one from writing too.
-/

namespace CloudMonitor

open Fallible

-- ---------------------------------------------------------------------------
-- The snapshots
-- ---------------------------------------------------------------------------

structure CostSnapshot where
  clientId : ℤ
  snapshotMonth : String
  totalCost : ℚ
  instanceCount : ℕ
  deriving DecidableEq

/-- `(now.replace(day=1) - timedelta(days=1)).strftime("%Y-%m")`. -/
def prevMonth (now : ℤ) : String :=
  yearMonth (now - ((civilDate now).day - 1) * dayMicros - dayMicros)

def costSnapshot (now : ℤ) (instances : List Instance) (c : Client) : CostSnapshot :=
  let own := instances.filter fun i => i.clientId == c.id
  { clientId := c.id
    snapshotMonth := prevMonth now
    totalCost := roundTo 2 (own.map Instance.monthlyCost).sum
    instanceCount := own.length }

def inst (env : Env) (now : ℤ) (client : Client) (spec : InstanceSpec) (id _stamp : ℤ) :
    Instance where
  id := id
  instanceName := spec.instanceName
  region := spec.region
  instanceType := spec.instanceType
  status := spec.status
  cpuUsage := spec.cpuUsage
  monthlyCost := env.settings.unitPrices spec.instanceType
  clientId := client.id
  launchedAt := now - spec.launchedDays * dayMicros
  updatedAt := now - hours spec.updatedHours

theorem inst_id (env : Env) (now : ℤ) (client : Client) (spec : InstanceSpec) (id stamp : ℤ) :
    Row.id (inst env now client spec id stamp) = id := rfl

/-- `addInstance`, with the row it adds. -/
def addInstanceRow (env : Env) (now : ℤ) (client : Client) (spec : InstanceSpec) : Svc Instance :=
  insertRow env (·.instances) (fun db t => { db with instances := t })
    (inst env now client spec) (inst_id env now client spec)

def addInstances (env : Env) (now : ℤ) : List (Client × InstanceSpec) → Svc (List Instance)
  | [] => return []
  | p :: ps => do
    let inst ← addInstanceRow env now p.1 p.2
    return inst :: (← addInstances env now ps)

/-- `seedRows` and the snapshots that are committed with the rows. -/
def seedSnapshots (env : Env) : Svc (List CostSnapshot) := do
  let now ← utcnow env
  let _admin ← addMember env "admin@techvalley.vn" "admin123!" "TechValley Admin" .admin
  let manager1 ← addMember env "lam@techvalley.vn" "manager123!" "Thai Van Lam" .clientManager
  let manager2 ← addMember env "minh@techvalley.vn" "manager123!" "Nguyen Minh" .clientManager
  let clients ← addClients env (clientSpecs manager1.id manager2.id)
  let instances ← addInstances env now (instancesOf clients)
  commit
  return clients.map (costSnapshot now instances)

/-- The rows a piece of the seeding adds. -/
structure Adds (clients : List Client) (instances : List Instance) (s s' : Session) : Prop where
  members : s'.view.members = s.view.members
  clients : s'.view.clients.rows.Perm (clients ++ s.view.clients.rows)
  instances : s'.view.instances.rows.Perm (instances ++ s.view.instances.rows)
  alerts : s'.view.alerts = s.view.alerts
  tick : s.tick ≤ s'.tick

theorem Adds.refl (s : Session) : Adds [] [] s s := ⟨rfl, .refl _, .refl _, rfl, le_rfl⟩

theorem Adds.trans {cs cs' : List Client} {is is' : List Instance} {s s' s'' : Session}
    (h : Adds cs is s s') (h' : Adds cs' is' s' s'') : Adds (cs ++ cs') (is ++ is') s s'' where
  members := h'.members.trans h.members
  clients := by
    refine h'.clients.trans ((h.clients.append_left cs').trans ?_)
    rw [← List.append_assoc]
    exact List.perm_append_comm.append_right _
  instances := by
    refine h'.instances.trans ((h.instances.append_left is').trans ?_)
    rw [← List.append_assoc]
    exact List.perm_append_comm.append_right _
  alerts := h'.alerts.trans h.alerts
  tick := h.tick.trans h'.tick

theorem addClients_adds (env : Env) (specs : List ClientSpec) (s : Session) :
    Triple (addClients env specs) s (fun cs s' => Adds cs [] s s') (fun _ _ => False) := by
  induction specs generalizing s with
  | nil => exact Triple.pure (.refl s)
  | cons spec specs ih =>
    have hone : Triple (addClient env spec.clientName spec.contractPlan spec.managerId) s
        (fun c s' => Adds [c] [] s s') (fun _ _ => False) :=
      Triple.of_ok rfl ⟨rfl, Table.insertNew_perm, .refl _, rfl, Nat.le_succ _⟩
    refine Triple.bind hone fun c s₁ h₁ => ?_
    refine Triple.bind (ih s₁) fun cs s₂ h₂ => ?_
    exact Triple.pure (h₁.trans h₂)

theorem addInstances_adds (env : Env) (now : ℤ) (pairs : List (Client × InstanceSpec))
    (s : Session) : Triple (addInstances env now pairs) s
      (fun is s' => Adds [] is s s' ∧
        (each (fun p => addInstance env now p.1 p.2) pairs).run s = (.ok (), s'))
      (fun _ _ => False) := by
  induction pairs generalizing s with
  | nil => exact Triple.pure ⟨.refl s, rfl⟩
  | cons p ps ih =>
    have hone : Triple (addInstanceRow env now p.1 p.2) s
        (fun i s' => Adds [] [i] s s' ∧ (addInstance env now p.1 p.2).run s = (.ok (), s'))
        (fun _ _ => False) :=
      Triple.of_ok rfl ⟨⟨rfl, .refl _, Table.insertNew_perm, rfl, Nat.le_succ _⟩, rfl⟩
    refine Triple.bind hone fun i s₁ h₁ => ?_
    refine Triple.bind (ih s₁) fun is s₂ h₂ => ?_
    refine Triple.pure ⟨h₁.1.trans h₂.1, ?_⟩
    rw [each, run_bind, h₁.2]
    exact h₂.2

-- ---------------------------------------------------------------------------
-- One seeding
-- ---------------------------------------------------------------------------

/-- What is committed, and what the snapshots were made from. -/
structure Seeded (env : Env) (s s' : Session) (snapshots : List CostSnapshot) : Prop where
  state : (seedRows env).run s = (.ok (), s')
  admin : ∃ m ∈ s'.committed.members, m.email = "admin@techvalley.vn"
  rows : ∃ clients instances,
    s'.committed.clients.rows.Perm (clients ++ s.view.clients.rows) ∧
    s'.committed.instances.rows.Perm (instances ++ s.view.instances.rows) ∧
    snapshots = clients.map (costSnapshot (env.clock s.tick) instances)
  tick : s.tick < s'.tick

theorem addMember_runs (env : Env) (email password name : String) (role : Role) (s : Session) :
    ∃ m s', (addMember env email password name role).run s = (.ok m, s') ∧ m.email = email ∧
      (∀ x, x ∈ s'.view.members ↔ x = m ∨ x ∈ s.view.members) ∧
      s'.view.clients = s.view.clients ∧ s'.view.instances = s.view.instances ∧
      s'.tick = s.tick + 1 :=
  ⟨_, _, rfl, rfl, fun _ => Table.mem_insertNew, rfl, rfl, rfl⟩

theorem seedSnapshots_triple (env : Env) (s : Session) :
    Triple (seedSnapshots env) s (fun snapshots s' => Seeded env s s' snapshots)
      (fun _ _ => False) := by
  obtain ⟨admin, s₁, h₁, hemail, hm₁, hc₁, hi₁, ht₁⟩ := addMember_runs env "admin@techvalley.vn"
    "admin123!" "TechValley Admin" .admin { s with tick := s.tick + 1 }
  obtain ⟨manager1, s₂, h₂, -, hm₂, hc₂, hi₂, ht₂⟩ := addMember_runs env "lam@techvalley.vn"
    "manager123!" "Thai Van Lam" .clientManager s₁
  obtain ⟨manager2, s₃, h₃, -, hm₃, hc₃, hi₃, ht₃⟩ := addMember_runs env "minh@techvalley.vn"
    "manager123!" "Nguyen Minh" .clientManager s₂
  obtain ⟨clients, s₄, h₄, hclients⟩ :=
    (addClients_adds env (clientSpecs manager1.id manager2.id) s₃).succeeds
  obtain ⟨instances, s₅, h₅, hinstances, heach⟩ :=
    (addInstances_adds env (env.clock s.tick) (instancesOf clients) s₄).succeeds
  have hadds := hclients.trans hinstances
  rw [List.append_nil, List.nil_append] at hadds
  have hrun : (seedSnapshots env).run s = (.ok (clients.map
      (costSnapshot (env.clock s.tick) instances)), { s₅ with committed := s₅.view }) := by
    simp only [seedSnapshots, run_bind, utcnow_run, h₁, h₂, h₃, h₄, h₅, commit_run, run_pure]
  refine Triple.of_ok hrun ?_
  constructor
  case state => simp only [seedRows, run_bind, utcnow_run, h₁, h₂, h₃, h₄, heach, commit_run]
  case admin =>
    refine ⟨admin, ?_, hemail⟩
    change admin ∈ s₅.view.members
    rw [hadds.members, hm₃, hm₂, hm₁]
    exact .inr (.inr (.inl rfl))
  case rows =>
    refine ⟨clients, instances, ?_, ?_, rfl⟩
    · have h := hadds.clients
      rwa [hc₃, hc₂, hc₁] at h
    · have h := hadds.instances
      rwa [hi₃, hi₂, hi₁] at h
  case tick =>
    have h := hadds.tick
    change s.tick < s₅.tick
    simp only [ht₃, ht₂, ht₁] at h
    omega

-- ---------------------------------------------------------------------------
-- The snapshots and the reports
-- ---------------------------------------------------------------------------

theorem prevMonth_eq (now : ℤ) : prevMonth now = monthLabel (monthOf now - 1) := by
  have hmonth : monthOf (now - ((civilDate now).day - 1) * dayMicros - dayMicros) =
      monthOf now - 1 := by
    have h := monthFirst_succ_le (monthOf now - 1)
    rw [monthOf_eq_iff, civilDate_eq, Int.sub_add_cancel]
    rw [Int.sub_add_cancel] at h
    unfold dayMicros
    dsimp only
    omega
  rw [prevMonth, yearMonth_eq, hmonth]

/-- The first start on an empty database leaves one snapshot for each client,
for the month that ends where the month of the start begins. It has the totals
that the client's cost report has from then on for these rows, and the report's
month when that is the one before. -/
theorem snapshots_agree (env : Env) (t : ℕ) :
    ∃ snapshots s', (seedSnapshots env).run (World.session ⟨Database.empty, t⟩) =
        (.ok snapshots, s') ∧
      (snapshots.map CostSnapshot.clientId).Perm s'.committed.clients.ids ∧
      ∀ sn ∈ snapshots, sn.snapshotMonth = yearMonth (monthStart (env.clock t) - 1) ∧
        ∀ later : Session, later.view = s'.committed →
        ∀ cost, ((getClientCost env sn.clientId).run later).1 = .ok cost →
          sn.totalCost = cost.totalMonthlyCost ∧ sn.instanceCount = cost.instanceCount ∧
          (0 ≤ env.clock t → 0 ≤ env.clock later.tick →
            (sn.snapshotMonth = cost.month ↔ monthStart (env.clock later.tick) =
              monthStart (monthStart (env.clock t) - 1))) := by
  obtain ⟨snapshots, s', hrun, hseeded⟩ :=
    (seedSnapshots_triple env (World.session ⟨Database.empty, t⟩)).succeeds
  obtain ⟨clients, instances, hclients, hinstances, rfl⟩ := hseeded.rows
  refine ⟨_, s', hrun, ?_, ?_⟩
  · have hids := (hclients.map Client.id).symm
    have hempty : (World.session ⟨Database.empty, t⟩).view.clients.rows = [] := rfl
    rw [hempty, List.append_nil] at hids
    rw [List.map_map]
    exact hids
  · intro sn hsn
    obtain ⟨c, -, rfl⟩ := List.mem_map.mp hsn
    have hbefore : prevMonth (env.clock t) = yearMonth (monthStart (env.clock t) - 1) := by
      rw [prevMonth_eq, yearMonth_eq, monthOf_before]
    refine ⟨hbefore, fun later hview cost hcost => ?_⟩
    obtain ⟨hmonth, hcount, htotal⟩ := (getClientCost_triple env _ later).returned hcost
    have hown : (clientInstancesQuery c.id later.view).Perm
        (instances.filter fun i => i.clientId == c.id) := by
      have hempty : (World.session ⟨Database.empty, t⟩).view.instances.rows = [] := rfl
      rw [hempty, List.append_nil] at hinstances
      rw [hview]
      exact hinstances.filter _
    refine ⟨?_, ?_, fun hnow hlater => ?_⟩
    · rw [htotal]
      exact congrArg (roundTo 2) (hown.map Instance.monthlyCost).sum_eq.symm
    · rw [hcount]
      exact hown.length_eq.symm
    · have hm := monthOf_nonneg hnow
      have hm' := monthOf_nonneg hlater
      change prevMonth (env.clock t) = cost.month ↔ _
      rw [hmonth, prevMonth_eq, yearMonth_eq, monthStart_inj, monthOf_before]
      constructor
      · exact fun h => (monthLabel_inj (by omega) (by omega) h).symm
      · exact fun h => congrArg monthLabel h.symm

-- ---------------------------------------------------------------------------
-- Workers that start on one database
-- ---------------------------------------------------------------------------

def seedEmails : List String :=
  ["admin@techvalley.vn", "lam@techvalley.vn", "minh@techvalley.vn"]

/-- What `seed` does after its look: the emails of the members are unique, so
the first statement raises if one of them is taken. -/
def insertSeed (env : Env) : Svc (List CostSnapshot) := do
  if (← view).members.rows.any (fun m => seedEmails.contains m.email) then raise .internal
  else seedSnapshots env

inductive WorkerPhase
  | starting
  | seeding
  | serving
  | failed
  deriving DecidableEq

inductive StartupEvent (ι : Type)
  | look (i : ι)
  | write (i : ι)
  | crash (i : ι)
  | restart (i : ι)
  | request (i : ι) (sub : ℤ) (req : Request)
  | wait (n : ℕ)

/-- `seeders` remembers the workers whose seed was committed. -/
structure Startup (ι : Type) where
  world : World
  snapshots : List CostSnapshot
  phase : ι → WorkerPhase
  seeders : List ι

namespace Startup

section
variable {ι : Type} [DecidableEq ι]

def start (world : World) (snapshots : List CostSnapshot) : Startup ι where
  world := world
  snapshots := snapshots
  phase _ := .starting
  seeders := []

def goto (σ : Startup ι) (i : ι) (p : WorkerPhase) : Startup ι :=
  { σ with phase := Function.update σ.phase i p }

/-- From the first statement to the commit a seeding holds the write lock. -/
def write (env : Env) (σ : Startup ι) (i : ι) : Startup ι :=
  match (insertSeed env).run σ.world.session with
  | (.ok snapshots, s) =>
    { world := s.world
      snapshots := σ.snapshots ++ snapshots
      phase := Function.update σ.phase i .serving
      seeders := i :: σ.seeders }
  | (.error _, _) => σ.goto i .failed

def step (env : Env) (σ : Startup ι) : StartupEvent ι → Startup ι
  | .look i =>
    if σ.phase i = .starting then
      σ.goto i (if σ.world.db.members.rows.isEmpty then .seeding else .serving)
    else σ
  | .write i => if σ.phase i = .seeding then write env σ i else σ
  | .crash i => σ.goto i .failed
  | .restart i => if σ.phase i = .failed then σ.goto i .starting else σ
  | .request i sub req =>
    if σ.phase i = .serving then { σ with world := (serve env sub req σ.world).2 } else σ
  | .wait n => if σ.world.tick ≤ n then { σ with world := { σ.world with tick := n } } else σ

end

/-- The world after one seeding of an empty database. -/
def seededAt (env : Env) (t : ℕ) : World :=
  ((seedRows env).run (World.session ⟨Database.empty, t⟩)).2.world

-- ---------------------------------------------------------------------------
-- One of them seeds
-- ---------------------------------------------------------------------------

section
variable {ι : Type}

/-- No worker has written, and the rows are those a run leaves. -/
structure Unseeded (env : Env) (first : World) (before : List CostSnapshot) (σ : Startup ι) :
    Prop where
  seeders : σ.seeders = []
  snapshots : σ.snapshots = before
  run : ∃ past, Run env first σ.world past
  empty : first.db = Database.empty → σ.world.db = Database.empty

/-- One worker has written, to an empty database, and a run went on from there. -/
structure SeededOnce (env : Env) (first : World) (before : List CostSnapshot) (σ : Startup ι) :
    Prop where
  seeders : ∃ i, σ.seeders = [i]
  empty : first.db = Database.empty
  run : ∃ t added s past,
    (seedSnapshots env).run (World.session ⟨Database.empty, t⟩) = (.ok added, s) ∧
      σ.snapshots = before ++ added ∧ Run env (seededAt env t) σ.world past

structure Inv (env : Env) (first : World) (before : List CostSnapshot) (σ : Startup ι) :
    Prop where
  rows : Unseeded env first before σ ∨ SeededOnce env first before σ
  serving : ∀ i, σ.phase i = .serving → σ.world.db.members.rows ≠ []
  seeding : ∀ i, σ.phase i = .seeding → first.db = Database.empty

variable {env : Env} {first : World} {before : List CostSnapshot} {σ : Startup ι}

theorem run_members {w w' : World} {past : List World} (h : Run env w w' past) :
    w'.db.members = w.db.members := by
  induction h with
  | start => rfl
  | step _ hstep ih => exact hstep.effect.members_eq.trans ih

theorem seededAt_eq {t : ℕ} {added : List CostSnapshot} {s : Session}
    (h : (seedSnapshots env).run (World.session ⟨Database.empty, t⟩) = (.ok added, s)) :
    seededAt env t = s.world ∧ ∃ m ∈ s.world.db.members, m.email = "admin@techvalley.vn" := by
  have hseeded := (seedSnapshots_triple env (World.session ⟨Database.empty, t⟩)).returned
    (congrArg Prod.fst h)
  rw [h] at hseeded
  exact ⟨congrArg (fun r => r.2.world) hseeded.state, hseeded.admin⟩

theorem SeededOnce.taken (h : SeededOnce env first before σ) :
    σ.world.db.members.rows.any (fun m => seedEmails.contains m.email) = true := by
  obtain ⟨t, added, s, past, hseed, -, hrun⟩ := h.run
  obtain ⟨hworld, m, hm, hemail⟩ := seededAt_eq hseed
  rw [run_members hrun, hworld]
  refine List.any_eq_true.mpr ⟨m, hm, ?_⟩
  rw [hemail]
  rfl

theorem Inv.start [DecidableEq ι] : Inv env first before (start first before : Startup ι) := by
  constructor
  case rows => exact .inl ⟨rfl, rfl, ⟨[], .start⟩, id⟩
  case serving =>
    intro i h
    cases h
  case seeding =>
    intro i h
    cases h

/-- The database takes a step of a run. -/
theorem Inv.move (h : Inv env first before σ) {w : World} (hstep : Step env σ.world w)
    (hempty : Unseeded env first before σ → first.db = Database.empty → w.db = Database.empty) :
    Inv env first before { σ with world := w } := by
  have hmembers : w.db.members = σ.world.db.members := hstep.effect.members_eq
  constructor
  case rows =>
    rcases h.rows with hun | honce
    · obtain ⟨past, hrun⟩ := hun.run
      exact .inl ⟨hun.seeders, hun.snapshots, ⟨_, hrun.step hstep⟩, hempty hun⟩
    · obtain ⟨t, added, s, past, hseed, hadded, hrun⟩ := honce.run
      exact .inr ⟨honce.seeders, honce.empty, t, added, s, _, hseed, hadded, hrun.step hstep⟩
  case serving =>
    intro i hi
    rw [hmembers]
    exact h.serving i hi
  case seeding => exact h.seeding

variable [DecidableEq ι]

/-- A worker that only changes its phase. -/
theorem Inv.goto (h : Inv env first before σ) {i : ι} {p : WorkerPhase}
    (hserving : p = .serving → σ.world.db.members.rows ≠ [])
    (hseeding : p = .seeding → first.db = Database.empty) :
    Inv env first before (σ.goto i p) := by
  constructor
  case rows => exact h.rows.imp (fun h => ⟨h.1, h.2, h.3, h.4⟩) fun h => ⟨h.1, h.2, h.3⟩
  case serving =>
    intro j hj
    by_cases hij : j = i
    · subst hij
      exact hserving (by simpa [Startup.goto] using hj)
    · exact h.serving j (by simpa [Startup.goto, hij] using hj)
  case seeding =>
    intro j hj
    by_cases hij : j = i
    · subst hij
      exact hseeding (by simpa [Startup.goto] using hj)
    · exact h.seeding j (by simpa [Startup.goto, hij] using hj)

theorem Inv.write (h : Inv env first before σ) {i : ι} (hi : σ.phase i = .seeding) :
    Inv env first before (write env σ i) := by
  rcases h.rows with hun | honce
  · -- the database is still as empty as the worker found it
    have hempty := h.seeding i hi
    have hdb := hun.empty hempty
    have hsession : σ.world.session = World.session ⟨Database.empty, σ.world.tick⟩ := by
      rw [World.session, World.session, hdb]
    obtain ⟨added, s, hseed, -⟩ :=
      (seedSnapshots_triple env (World.session ⟨Database.empty, σ.world.tick⟩)).succeeds
    obtain ⟨hworld, m, hm, -⟩ := seededAt_eq hseed
    have hfree : (World.session ⟨Database.empty, σ.world.tick⟩).view.members.rows.any
        (fun m => seedEmails.contains m.email) = false := rfl
    have hrun : (insertSeed env).run σ.world.session = (.ok added, s) := by
      rw [hsession]
      simp only [insertSeed, run_bind, view_run, hfree, Bool.false_eq_true, if_false]
      exact hseed
    simp only [Startup.write, hrun]
    constructor
    case rows =>
      refine .inr ⟨⟨i, by rw [hun.seeders]⟩, hempty, σ.world.tick, added, s, [], hseed, ?_, ?_⟩
      · rw [hun.snapshots]
      · rw [hworld]
        exact .start
    case serving =>
      intro j _
      exact List.ne_nil_of_mem hm
    case seeding =>
      intro j hj
      by_cases hij : j = i
      · subst hij
        simp at hj
      · exact h.seeding j (by simpa [hij] using hj)
  · have hrun : (insertSeed env).run σ.world.session = (.error .internal, σ.world.session) := by
      have htaken : σ.world.session.view.members.rows.any
          (fun m => seedEmails.contains m.email) = true := honce.taken
      simp only [insertSeed, run_bind, view_run, htaken, if_true, run_raise]
    simp only [Startup.write, hrun]
    exact h.goto (by simp) (by simp)

theorem Inv.step (hfirst : first.db = Database.empty ∨ first.db.members.rows ≠ [])
    (h : Inv env first before σ) (e : StartupEvent ι) : Inv env first before (step env σ e) := by
  cases e with
  | look i =>
    simp only [Startup.step]
    split
    · cases hmembers : σ.world.db.members.rows.isEmpty with
      | true =>
        refine h.goto (by simp) fun _ => ?_
        rcases h.rows with hun | honce
        · obtain ⟨past, hrun⟩ := hun.run
          rw [run_members hrun, List.isEmpty_iff] at hmembers
          exact hfirst.resolve_right fun hne => hne hmembers
        · exact honce.empty
      | false => exact h.goto (fun _ => by simpa using hmembers) (by simp)
    · exact h
  | write i =>
    simp only [Startup.step]
    split
    · next hi => exact h.write hi
    · exact h
  | crash i => exact h.goto (by simp) (by simp)
  | restart i =>
    simp only [Startup.step]
    split
    · exact h.goto (by simp) (by simp)
    · exact h
  | request i sub req =>
    simp only [Startup.step]
    split
    · next hi =>
      refine h.move (.serve sub req) fun hun hempty => ?_
      exact absurd (by rw [hun.empty hempty]; rfl) (h.serving i hi)
    · exact h
  | wait n =>
    simp only [Startup.step]
    split
    · next hle => exact h.move (.wait n hle) fun hun hempty => hun.empty hempty
    · exact h

def runStartup (env : Env) (first : World) (before : List CostSnapshot)
    (events : List (StartupEvent ι)) : Startup ι :=
  play (Startup.step env) (Startup.start first before) events

/-- Workers that start, write, fail, start again and serve in any order: the
rows are those of a run from the first database or, once one worker has written
to an empty one, of a run from a single seeding. Nobody serves a database that
has not been seeded. -/
theorem seeded_once (env : Env) (first : World) (before : List CostSnapshot)
    (hfirst : first.db = Database.empty ∨ first.db.members.rows ≠ [])
    (events : List (StartupEvent ι)) :
    (Unseeded env first before (runStartup env first before events) ∨
      SeededOnce env first before (runStartup env first before events)) ∧
    ∀ i, (runStartup env first before events).phase i = .serving →
      (runStartup env first before events).world.db.members.rows ≠ [] ∧
      (first.db = Database.empty →
        SeededOnce env first before (runStartup env first before events)) := by
  have h : Inv env first before (runStartup env first before events) :=
    play_keeps (fun _ e h => h.step hfirst e) events Inv.start
  refine ⟨h.rows, fun i hi => ⟨h.serving i hi, fun hempty => h.rows.resolve_left fun hun => ?_⟩⟩
  exact absurd (by rw [hun.empty hempty]; rfl) (h.serving i hi)

-- Two workers find no member. The second one to write is refused.
def bothLook : List (StartupEvent Bool) :=
  [.look false, .look true, .write true, .write false, .request true 1 (.ofMember .report)]

theorem seeded_once_bothLook :
    (runStartup (.every 1) ⟨Database.empty, 0⟩ [] bothLook).phase false = .failed ∧
      SeededOnce (.every 1) ⟨Database.empty, 0⟩ []
        (runStartup (.every 1) ⟨Database.empty, 0⟩ [] bothLook) :=
  ⟨by decide +kernel, ((seeded_once (.every 1) ⟨Database.empty, 0⟩ [] (.inl rfl) bothLook).2 true
    (by decide +kernel)).2 rfl⟩

end

end Startup

end CloudMonitor
