import CloudMonitor.Report

/-!
# The cost paths

Every instance keeps the unit price of its type. With prices in whole cents
nothing is lost in rounding, and the cost of a client, its forecast and the
report's total are sums of unit prices over different sets of instances.
-/

namespace CloudMonitor

open Fallible

-- ---------------------------------------------------------------------------
-- Whole cents
-- ---------------------------------------------------------------------------

def WholeCents (x : ℚ) : Prop := ∃ n : ℤ, x * 10 ^ 2 = n

namespace WholeCents

theorem zero : WholeCents 0 := ⟨0, by simp⟩

theorem add (hx : WholeCents x) (hy : WholeCents y) : WholeCents (x + y) := by
  obtain ⟨m, hm⟩ := hx
  obtain ⟨n, hn⟩ := hy
  exact ⟨m + n, by rw [add_mul, hm, hn, Int.cast_add]⟩

theorem nat_mul (k : ℕ) (hx : WholeCents x) : WholeCents (k * x) := by
  obtain ⟨n, hn⟩ := hx
  exact ⟨k * n, by rw [mul_assoc, hn, Int.cast_mul, Int.cast_natCast]⟩

theorem sum {xs : List ℚ} (h : ∀ x ∈ xs, WholeCents x) : WholeCents xs.sum := by
  induction xs with
  | nil => exact zero
  | cons x xs ih =>
    rw [List.sum_cons]
    exact (h x (by simp)).add (ih fun y hy => h y (.tail _ hy))

theorem rounded (hx : WholeCents x) : roundTo 2 x = x := by
  obtain ⟨n, hn⟩ := hx
  exact roundTo_of_intCast hn

end WholeCents

-- ---------------------------------------------------------------------------
-- The stored price
-- ---------------------------------------------------------------------------

def price (env : Env) (i : Instance) : ℚ := env.settings.unitPrices i.instanceType

def Priced (env : Env) (db : Database) : Prop := ∀ i ∈ db.instances, i.monthlyCost = price env i

section
variable {env : Env} {w w' : World} {past : List World}

theorem Effect.priced (h : Effect env clientIds w w') (hp : Priced env w.db) :
    Priced env w'.db := by
  cases h with
  | idle | createClient | scan | resolveAlert => exact hp
  | createInstance i fresh _ _ _ hcost => exact Table.forall_mem_insert fresh hcost hp
  | updateStatus i hi => exact Table.forall_mem_update (hp i hi) hp
  | deleteInstance => exact Table.forall_mem_delete hp

theorem Run.priced (h : Run env w w' past) (hp : Priced env w.db) : Priced env w'.db := by
  induction h with
  | start => exact hp
  | step _ hstep ih => exact hstep.effect.priced ih

/-- Neither the session's rows nor the committed ones lose the price. -/
def KeepsPrices (env : Env) (s s' : Session) : Prop :=
  Priced env s.committed → Priced env s.view → Priced env s'.committed ∧ Priced env s'.view

theorem KeepsPrices.refl (s : Session) : KeepsPrices env s s := fun hc hv => ⟨hc, hv⟩

theorem KeepsPrices.trans {a b c : Session} (h : KeepsPrices env a b) (h' : KeepsPrices env b c) :
    KeepsPrices env a c := by
  intro hc hv
  obtain ⟨hc', hv'⟩ := h hc hv
  exact h' hc' hv'

theorem keepsPrices_bind {x : Svc α} {f : α → Svc β} (hx : Within (KeepsPrices env) x)
    (hf : ∀ a, Within (KeepsPrices env) (f a)) : Within (KeepsPrices env) (x >>= f) :=
  Within.bind (R := KeepsPrices env) KeepsPrices.trans hx hf

theorem addMember_prices (email password name : String) (role : Role) :
    Within (KeepsPrices env) (addMember env email password name role) :=
  fun _ hc hv => ⟨hc, hv⟩

theorem addClients_prices (specs : List ClientSpec) :
    Within (KeepsPrices env) (addClients env specs) := by
  induction specs with
  | nil => exact fun _ hc hv => ⟨hc, hv⟩
  | cons spec specs ih =>
    refine keepsPrices_bind (fun _ hc hv => ⟨hc, hv⟩) fun client => ?_
    exact keepsPrices_bind ih fun _ => Within.pure KeepsPrices.refl _

theorem addInstance_prices (now : ℤ) (client : Client) (spec : InstanceSpec) :
    Within (KeepsPrices env) (addInstance env now client spec) := by
  refine fun s hc hv => ⟨hc, fun i hi => ?_⟩
  rcases Table.mem_insertNew.mp hi with rfl | hi
  · rfl
  · exact hv i hi

theorem addInstances_prices (now : ℤ) (pairs : List (Client × InstanceSpec)) :
    Within (KeepsPrices env) (each (fun p => addInstance env now p.1 p.2) pairs) := by
  induction pairs with
  | nil => exact Within.pure KeepsPrices.refl _
  | cons p pairs ih => exact keepsPrices_bind (addInstance_prices now p.1 p.2) fun _ => ih

theorem seedRows_prices (env : Env) : Within (KeepsPrices env) (seedRows env) := by
  refine keepsPrices_bind (fun _ hc hv => ⟨hc, hv⟩) fun now => ?_
  refine keepsPrices_bind (addMember_prices _ _ _ _) fun _ => ?_
  refine keepsPrices_bind (addMember_prices _ _ _ _) fun manager1 => ?_
  refine keepsPrices_bind (addMember_prices _ _ _ _) fun manager2 => ?_
  refine keepsPrices_bind (addClients_prices _) fun clients => ?_
  exact keepsPrices_bind (addInstances_prices now _) fun _ _ _ hv => ⟨hv, hv⟩

theorem seeded_priced (env : Env) : Priced env (seeded env).db := by
  have hempty : Priced env Database.empty := fun i hi => absurd hi (Table.not_mem_empty i)
  have hview : Within (KeepsPrices env) view := fun _ hc hv => ⟨hc, hv⟩
  have hseed : Within (KeepsPrices env) (seed env) :=
    keepsPrices_bind hview fun _ =>
      Within.ite (Within.pure KeepsPrices.refl _) (seedRows_prices env)
  have h := hseed (World.session { db := Database.empty, tick := 0 }) hempty hempty
  simp only [seeded, Session.world]
  exact h.1

theorem Reachable.priced (h : Reachable env w) : Priced env w.db := by
  obtain ⟨past, hrun⟩ := h
  exact hrun.priced (seeded_priced env)

end

-- ---------------------------------------------------------------------------
-- Sums of prices
-- ---------------------------------------------------------------------------

def priceSum (env : Env) (is : List Instance) : ℚ := (is.map (price env)).sum

def runningInstances (clientId : ℤ) (db : Database) : List Instance :=
  (clientInstancesQuery clientId db).filter (·.status == .running)

def runningOfType (clientId : ℤ) (db : Database) (t : InstanceType) : ℕ :=
  ((runningInstances clientId db).filter (·.instanceType == t)).length

def instanceTypes : List InstanceType := [.large, .medium, .small]

section
variable {env : Env} {db : Database} {is : List Instance}

theorem wholeCents_priceSum (hcents : ∀ t, WholeCents (env.settings.unitPrices t))
    (is : List Instance) : WholeCents (priceSum env is) := by
  refine WholeCents.sum fun x hx => ?_
  obtain ⟨i, -, rfl⟩ := List.mem_map.mp hx
  exact hcents i.instanceType

theorem sum_monthlyCost (hp : Priced env db) (his : ∀ i ∈ is, i ∈ db.instances) :
    (is.map Instance.monthlyCost).sum = priceSum env is :=
  congrArg List.sum (List.map_congr_left fun i hi => hp i (his i hi))

theorem types_shared (is : List Instance) :
    Shared is instanceTypes fun t i => i.instanceType == t := by
  intro i _
  cases h : i.instanceType <;> simp [instanceTypes, h]

theorem priceSum_ofType (env : Env) (is : List Instance) (t : InstanceType) :
    priceSum env (is.filter (·.instanceType == t)) =
      (is.filter (·.instanceType == t)).length * env.settings.unitPrices t := by
  have hconst : (is.filter (·.instanceType == t)).map (price env) =
      (is.filter (·.instanceType == t)).map fun _ => env.settings.unitPrices t := by
    refine List.map_congr_left fun i hi => ?_
    have ht : i.instanceType = t := by simpa using (List.mem_filter.mp hi).2
    rw [price, ht]
  rw [priceSum, hconst, List.map_const', List.sum_replicate, nsmul_eq_mul]

theorem priceSum_running (env : Env) (clientId : ℤ) (db : Database) :
    priceSum env (runningInstances clientId db) =
      (instanceTypes.map fun t =>
        (runningOfType clientId db t : ℚ) * env.settings.unitPrices t).sum := by
  rw [priceSum, (types_shared _).sum]
  exact congrArg List.sum (List.map_congr_left fun t _ => priceSum_ofType env _ t)

theorem priceSum_split (env : Env) (clientId : ℤ) (db : Database) :
    priceSum env (clientInstancesQuery clientId db) =
      priceSum env (runningInstances clientId db) +
        priceSum env ((clientInstancesQuery clientId db).filter (·.status != .running)) := by
  have hshared : Shared (clientInstancesQuery clientId db) [true, false]
      fun b i => (i.status == .running) == b := by
    intro i _
    cases h : i.status == .running <;> simp [h]
  have hsum := hshared.sum (price env)
  simp only [List.map_cons, List.map_nil, List.sum_cons, List.sum_nil, add_zero, beq_true,
    beq_false] at hsum
  exact hsum

end

-- ---------------------------------------------------------------------------
-- One client
-- ---------------------------------------------------------------------------

theorem runningCounts_eq (clientId : ℤ) (db : Database) :
    runningCounts clientId db = groups instanceTypes (runningOfType clientId db) := by
  have hcount : ∀ t, (db.instances.rows.filter fun i =>
      i.clientId == clientId && i.status == .running && i.instanceType == t).length =
      runningOfType clientId db t := by
    intro t
    rw [runningOfType, runningInstances, clientInstancesQuery, List.filter_filter,
      List.filter_filter]
    refine congrArg List.length (List.filter_congr fun i _ => ?_)
    ac_rfl
  simp only [runningCounts, hcount]
  rfl

/-- What the forecast would be if it went through the running instances one by one. -/
structure NaiveForecast (env : Env) (running : List Instance) (f : CostForecast) : Prop where
  keys : (f.breakdown.map Prod.fst).Nodup
  entry : ∀ t, f.breakdown.lookup t =
    if (running.filter (·.instanceType == t)) = [] then none
    else some
      { count := (running.filter (·.instanceType == t)).length
        unitPrice := env.settings.unitPrices t
        subtotal := priceSum env (running.filter (·.instanceType == t)) }
  runningInstanceCount : f.runningInstanceCount = running.length
  forecastCost : f.forecastCost = priceSum env running

section
variable {env : Env} {s : Session} {c : Client}

theorem getClientCost_run (env : Env) (hc : c ∈ s.view.clients) (hid : int64 c.id) :
    ∃ cost, (getClientCost env c.id).run s = (.ok cost, { s with tick := s.tick + 1 }) ∧
      cost.totalMonthlyCost =
        roundTo 2 ((clientInstancesQuery c.id s.view).map Instance.monthlyCost).sum := by
  have hclient : (getClient c.id).run s = (.ok c, s) := by rw [getClient_run hc, if_pos hid]
  exact ⟨_, by simp only [getClientCost, getClientInstances, run_bind, hclient, view_run,
    utcnow_run, run_pure]; rfl, rfl⟩

def forecastEntry (env : Env) (t : InstanceType) (n : ℕ) : ForecastEntry :=
  { count := n
    unitPrice := env.settings.unitPrices t
    subtotal := n * env.settings.unitPrices t }

theorem getCostForecast_run (hcents : ∀ t, WholeCents (env.settings.unitPrices t))
    (hc : c ∈ s.view.clients) (hid : int64 c.id) :
    ∃ f, (getCostForecast env c.id).run s = (.ok f, { s with tick := s.tick + 1 }) ∧
      f.breakdown = (groups instanceTypes (runningOfType c.id s.view)).map
        (fun e => (e.1, forecastEntry env e.1 e.2)) ∧
      f.runningInstanceCount = (f.breakdown.map fun e => e.2.count).sum ∧
      f.forecastCost = roundTo 2 (f.breakdown.map fun e => e.2.subtotal).sum := by
  have hclient : (getClient c.id).run s = (.ok c, s) := by rw [getClient_run hc, if_pos hid]
  have hsub : ∀ (n : ℕ) t, roundTo 2 (n * env.settings.unitPrices t) =
      n * env.settings.unitPrices t := fun n t => ((hcents t).nat_mul n).rounded
  exact ⟨_, by simp only [getCostForecast, run_bind, hclient, view_run, utcnow_run, run_pure,
    runningCounts_eq, hsub]; rfl, rfl, rfl, rfl⟩

theorem naiveForecast {f : CostForecast} (hcents : ∀ t, WholeCents (env.settings.unitPrices t))
    (hbreakdown : f.breakdown = (groups instanceTypes (runningOfType c.id s.view)).map
      fun e => (e.1, forecastEntry env e.1 e.2))
    (hcount : f.runningInstanceCount = (f.breakdown.map fun e => e.2.count).sum)
    (hcost : f.forecastCost = roundTo 2 (f.breakdown.map fun e => e.2.subtotal).sum) :
    NaiveForecast env (runningInstances c.id s.view) f := by
  constructor
  case keys =>
    have hkeys : f.breakdown.map Prod.fst =
        (groups instanceTypes (runningOfType c.id s.view)).map Prod.fst := by
      rw [hbreakdown, List.map_map]
      rfl
    rw [hkeys, keys_groups]
    exact List.Nodup.filter _ (by decide)
  case entry =>
    intro t
    have ht : t ∈ instanceTypes := by cases t <;> decide
    rw [hbreakdown, lookup_groups, priceSum_ofType]
    by_cases hnone : (runningInstances c.id s.view).filter (·.instanceType == t) = []
    · simp [runningOfType, hnone]
    · have hpos : runningOfType c.id s.view t ≠ 0 := by
        simpa [runningOfType, List.length_eq_zero_iff] using hnone
      rw [if_pos ⟨ht, hpos⟩, if_neg hnone]
      rfl
  case runningInstanceCount =>
    rw [hcount, hbreakdown, List.map_map, (types_shared (runningInstances c.id s.view)).length]
    exact sum_groups instanceTypes _ (fun _ n => n) fun _ => rfl
  case forecastCost =>
    have hsum : (f.breakdown.map fun e => e.2.subtotal).sum =
        priceSum env (runningInstances c.id s.view) := by
      rw [hbreakdown, List.map_map, priceSum_running]
      exact sum_groups instanceTypes _ (fun t n => (n : ℚ) * env.settings.unitPrices t)
        fun _ => by simp
    rw [hcost, hsum, (wholeCents_priceSum hcents _).rounded]

end

-- ---------------------------------------------------------------------------
-- All clients of a member
-- ---------------------------------------------------------------------------

section
variable {env : Env} {w : World} {clientIds : Option Select}

theorem visible_shared (wf : WellFormed env w) : Shared (visibleInstances clientIds w.db)
    (clientsQuery clientIds w.db) fun c i => i.clientId == c.id := by
  intro i hi
  obtain ⟨hi, hscope⟩ := List.mem_filter.mp hi
  obtain ⟨c, hc, hid⟩ := Table.mem_ids.mp (wf.instance_client i hi)
  refine ⟨c, ?_⟩
  rw [clientsQuery, List.filter_filter]
  refine Table.filter_eq_singleton hc ?_ fun c' hc' hp => ?_
  · have hscope' : inScope clientIds w.db c.id = true := by
      rw [← hscope]
      exact congrArg _ hid
    simpa [hscope'] using hid.symm
  · simp only [Bool.and_eq_true, beq_iff_eq] at hp
    exact Table.unique hc' hc (hp.1.symm.trans hid.symm)

theorem visible_ofClient {c : Client} (hc : c ∈ clientsQuery clientIds w.db) :
    (visibleInstances clientIds w.db).filter (fun i => i.clientId == c.id) =
      clientInstancesQuery c.id w.db := by
  have hscope : inScope clientIds w.db c.id = true := (List.mem_filter.mp hc).2
  rw [visibleInstances, List.filter_filter, clientInstancesQuery]
  refine List.filter_congr fun i _ => ?_
  by_cases hid : i.clientId = c.id <;> simp [hid, hscope]

theorem exactCost_eq (wf : WellFormed env w) (hp : Priced env w.db) :
    exactCost clientIds w.db = ((clientsQuery clientIds w.db).map fun c =>
      priceSum env (clientInstancesQuery c.id w.db)).sum := by
  rw [exactCost, (visible_shared wf).sum]
  refine congrArg List.sum (List.map_congr_left fun c hc => ?_)
  rw [visible_ofClient hc]
  exact sum_monthlyCost hp fun i hi => List.mem_of_mem_filter hi

/-- The report rounds once, over whole cents. -/
theorem Reports.totalMonthlyCost_eq {r : MonitorReport}
    (hcents : ∀ t, WholeCents (env.settings.unitPrices t)) (wf : WellFormed env w)
    (hp : Priced env w.db) (h : Reports env clientIds w.db r) :
    r.totalMonthlyCost = ((clientsQuery clientIds w.db).map fun c =>
      priceSum env (clientInstancesQuery c.id w.db)).sum := by
  have hsum : WholeCents (((clientsQuery clientIds w.db).map fun c =>
      priceSum env (clientInstancesQuery c.id w.db)).sum) := by
    refine WholeCents.sum fun x hx => ?_
    obtain ⟨c, -, rfl⟩ := List.mem_map.mp hx
    exact wholeCents_priceSum hcents _
  rw [h.totalMonthlyCost, exactCost_eq wf hp, hsum.rounded]

end

-- ---------------------------------------------------------------------------
-- The cost paths agree
-- ---------------------------------------------------------------------------

theorem totalMonthlyCost_eq {env : Env} {w : World}
    (hcents : ∀ t, WholeCents (env.settings.unitPrices t)) (hp : Priced env w.db)
    {c : Client} (hc : c ∈ w.db.clients) (hid : int64 c.id) :
    ∃ cost, ((getClientCost env c.id).run w.session).1 = .ok cost ∧
      cost.totalMonthlyCost = priceSum env (clientInstancesQuery c.id w.db) := by
  obtain ⟨cost, hrun, hcost⟩ := getClientCost_run (s := w.session) env hc hid
  have hsum : ((clientInstancesQuery c.id w.db).map Instance.monthlyCost).sum =
      priceSum env (clientInstancesQuery c.id w.db) :=
    sum_monthlyCost hp fun i hi => List.mem_of_mem_filter hi
  refine ⟨cost, congrArg Prod.fst hrun, hcost.trans ?_⟩
  calc roundTo 2 ((clientInstancesQuery c.id w.db).map Instance.monthlyCost).sum
      = roundTo 2 (priceSum env (clientInstancesQuery c.id w.db)) := by rw [hsum]
    _ = priceSum env (clientInstancesQuery c.id w.db) := (wholeCents_priceSum hcents _).rounded

/-- In every reachable database, with prices in whole cents. -/
theorem cost_paths_agree (env : Env) (hcents : ∀ t, WholeCents (env.settings.unitPrices t))
    (w : World) (h : Reachable env w) (hids : ∀ c ∈ w.db.clients, int64 c.id) :
    (∀ i ∈ w.db.instances, i.monthlyCost = env.settings.unitPrices i.instanceType) ∧
    (∀ c ∈ w.db.clients, ∃ cost f,
      ((getClientCost env c.id).run w.session).1 = .ok cost ∧
      ((getCostForecast env c.id).run w.session).1 = .ok f ∧
      cost.totalMonthlyCost - f.forecastCost =
        priceSum env ((clientInstancesQuery c.id w.db).filter (·.status != .running)) ∧
      NaiveForecast env (runningInstances c.id w.db) f) ∧
    ∀ m : Member, ∃ r, ((buildReport env (accessibleClientIds m)).run w.session).1 = .ok r ∧
      ∀ costs : Client → ClientCost,
        (∀ c ∈ clientsQuery (accessibleClientIds m) w.db,
          ((getClientCost env c.id).run w.session).1 = .ok (costs c)) →
        r.totalMonthlyCost = ((clientsQuery (accessibleClientIds m) w.db).map fun c =>
          (costs c).totalMonthlyCost).sum := by
  have hp := h.priced
  refine ⟨hp, fun c hc => ?_, fun m => ?_⟩
  · obtain ⟨cost, hcost, htotal⟩ := totalMonthlyCost_eq hcents hp hc (hids c hc)
    obtain ⟨f, hrun, hbreakdown, hcount, hsum⟩ :=
      getCostForecast_run (s := w.session) hcents hc (hids c hc)
    have hnaive := naiveForecast hcents hbreakdown hcount hsum
    have hforecast : f.forecastCost = priceSum env (runningInstances c.id w.db) :=
      hnaive.forecastCost
    refine ⟨cost, f, hcost, congrArg Prod.fst hrun, ?_, hnaive⟩
    rw [htotal, hforecast, priceSum_split]
    ring
  · obtain ⟨r, hrun, hr⟩ := buildReport_run env (accessibleClientIds m) w.session
    refine ⟨r, congrArg Prod.fst hrun, fun costs hcosts => ?_⟩
    have hclients : ∀ c ∈ clientsQuery (accessibleClientIds m) w.db,
        (costs c).totalMonthlyCost = priceSum env (clientInstancesQuery c.id w.db) := by
      intro c hc
      have hmem : c ∈ w.db.clients := List.mem_of_mem_filter hc
      obtain ⟨cost, hcost, htotal⟩ := totalMonthlyCost_eq hcents hp hmem (hids c hmem)
      rw [hcosts c hc, Except.ok.injEq] at hcost
      rw [hcost, htotal]
    calc r.totalMonthlyCost
        = ((clientsQuery (accessibleClientIds m) w.db).map fun c =>
            priceSum env (clientInstancesQuery c.id w.db)).sum :=
          hr.totalMonthlyCost_eq hcents h.wellFormed hp
      _ = ((clientsQuery (accessibleClientIds m) w.db).map fun c =>
            (costs c).totalMonthlyCost).sum :=
          congrArg List.sum (List.map_congr_left fun c hc => (hclients c hc).symm)

theorem default_wholeCents (t : InstanceType) :
    WholeCents ((Env.every 1).settings.unitPrices t) := by
  cases t
  · exact ⟨5000, by decide +kernel⟩
  · exact ⟨12000, by decide +kernel⟩
  · exact ⟨25000, by decide +kernel⟩

theorem cost_paths_agree_seeded :
    ∃ cost f,
      ((getClientCost (.every 1) vinaSoft.id).run (seeded (.every 1)).session).1 = .ok cost ∧
      ((getCostForecast (.every 1) vinaSoft.id).run (seeded (.every 1)).session).1 = .ok f ∧
      cost.totalMonthlyCost - f.forecastCost = priceSum (.every 1)
        ((clientInstancesQuery vinaSoft.id (seeded (.every 1)).db).filter
          (·.status != .running)) := by
  obtain ⟨cost, f, hcost, hf, hdiff, -⟩ := (cost_paths_agree (.every 1) default_wholeCents
    (seeded (.every 1)) ⟨_, .start⟩ (by decide +kernel)).2.1 vinaSoft vinaSoft_seeded
  exact ⟨cost, f, hcost, hf, hdiff⟩

end CloudMonitor
