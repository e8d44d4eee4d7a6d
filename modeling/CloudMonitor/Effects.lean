import CloudMonitor.Api
import CloudMonitor.Services.MonitorLaws

/-!
# What a step does to the tables

`Effect` lists everything a service call or a request can do to the committed
rows, with what was checked before it and the clock readings it stamps.
`serve_effect` is the only place that looks into the controllers; whatever
holds across every effect holds across every request.
-/

namespace CloudMonitor

open Fallible

/-- One step from `w`, taken for a caller with this scope. -/
inductive Effect (env : Env) (clientIds : Option Select) (w : World) : World → Prop
  | idle (n : ℕ) (hn : w.tick ≤ n) : Effect env clientIds w { w with tick := n }
  | createClient (c : Client) (fresh : Row.id c ∉ w.db.clients.ids) (hadmin : clientIds = none)
      (hmanager : ∃ m ∈ w.db.members, m.id = c.managerId ∧ m.role = .clientManager)
      (hid : 0 < c.id) (hstamp : c.createdAt = env.clock w.tick) :
      Effect env clientIds w
        { db := { w.db with clients := w.db.clients.insert c fresh }, tick := w.tick + 1 }
  | createInstance (i : Instance) (fresh : Row.id i ∉ w.db.instances.ids)
      (hclient : i.clientId ∈ w.db.clients.ids) (hscope : inScope clientIds w.db i.clientId = true)
      (hid : 0 < i.id) (hcost : i.monthlyCost = env.settings.unitPrices i.instanceType)
      (hcpu : 0 ≤ i.cpuUsage ∧ i.cpuUsage ≤ 100)
      (hlaunched : i.launchedAt = env.clock w.tick)
      (hupdated : i.updatedAt = env.clock (w.tick + 1)) :
      Effect env clientIds w
        { db := { w.db with instances := w.db.instances.insert i fresh }, tick := w.tick + 2 }
  | updateStatus (i : Instance) (hi : i ∈ w.db.instances) (data : InstanceStatusUpdate)
      (hscope : inScope clientIds w.db i.clientId = true) (hchange : ¬data.isNoop i)
      (k : ℕ) (hk : w.tick ≤ k) :
      Effect env clientIds w
        { db := { w.db with instances := w.db.instances.update (data.apply i (env.clock k)) }
          tick := k + 1 }
  | deleteInstance (i : Instance) (hi : i ∈ w.db.instances)
      (hscope : inScope clientIds w.db i.clientId = true) (hstatus : i.status ≠ .running) :
      Effect env clientIds w { db := deleteCascade w.db i.id, tick := w.tick }
  | scan (job : ScanJob) (hscope : ∀ i, job.query w.db i = true →
    inScope clientIds w.db i.clientId = true)
      (k : ℕ) (hk : w.tick ≤ k) :
      Effect env clientIds w
        { db := { w.db with
            alerts := addAlerts env k (missingAlerts job w.db.alerts (scanMatches job w.db))
              w.db.alerts }
          tick := k + (missingAlerts job w.db.alerts (scanMatches job w.db)).length }
  | resolveAlert (a : Alert) (ha : a ∈ w.db.alerts) (hunresolved : a.isResolved = false)
      (hscope : ∀ i ∈ w.db.instances, i.id = a.instanceId →
        inScope clientIds w.db i.clientId = true) :
      Effect env clientIds w
        { db := { w.db with alerts := w.db.alerts.update (a.resolve (env.clock w.tick)) }
          tick := w.tick + 1 }

theorem Effect.tick_le {w' : World} (h : Effect env clientIds w w') : w.tick ≤ w'.tick := by
  cases h <;> simp only <;> omega

theorem Effect.members_eq {w' : World} (h : Effect env clientIds w w') :
    w'.db.members = w.db.members := by
  cases h <;> rfl

theorem Effect.client_kept {w' : World} {c : Client} (h : Effect env clientIds w w')
    (hc : c ∈ w.db.clients) : c ∈ w'.db.clients := by
  cases h with
  | createClient c' fresh => exact (Table.mem_insert fresh).mpr (.inr hc)
  | idle | createInstance | updateStatus | deleteInstance | scan | resolveAlert => exact hc

-- ---------------------------------------------------------------------------
-- Reading
-- ---------------------------------------------------------------------------

def Quiet (s s' : Session) : Prop :=
  s'.committed = s.committed ∧ s'.view = s.view ∧ s.tick ≤ s'.tick

theorem Quiet.refl (s : Session) : Quiet s s := ⟨rfl, rfl, le_rfl⟩

theorem Quiet.trans (h : Quiet a b) (h' : Quiet b c) : Quiet a c :=
  ⟨h'.1.trans h.1, h'.2.1.trans h.2.1, h.2.2.trans h'.2.2⟩

theorem Quiet.effect (h : Quiet w.session s) : Effect env clientIds w s.world := by
  have hs : s.world = { w with tick := s.tick } := by simp [Session.world, h.1, World.session]
  rw [hs]
  exact .idle s.tick h.2.2

def Reads (x : Svc α) : Prop := Within Quiet x

theorem Reads.pure (a : α) : Reads (Pure.pure a) := Within.pure Quiet.refl a

theorem Reads.raise {α : Type} (e : ApiError) : Reads (Fallible.raise e : Svc α) :=
  Within.raise Quiet.refl e

theorem Reads.bind {x : Svc α} {f : α → Svc β} (hx : Reads x) (hf : ∀ a, Reads (f a)) :
    Reads (x >>= f) := Within.bind (R := Quiet) Quiet.trans hx hf

theorem Reads.effect {x : Svc α} (hx : Reads x) (env : Env) (clientIds : Option Select)
    (w : World) :
    Triple x w.session (fun _ s' => Effect env clientIds w s'.world)
      (fun _ s' => Effect env clientIds w s'.world) := by
  have h : Effect env clientIds w (x.run w.session).2.world := (hx w.session).effect
  constructor
  split <;> next hr => rwa [hr] at h

theorem reads_view : Reads view := Quiet.refl

theorem reads_utcnow (env : Env) : Reads (utcnow env) := fun _ => ⟨rfl, rfl, Nat.le_succ _⟩

theorem reads_of_triple {x : Svc α} {Q : α → Session → Prop}
    (h : ∀ s, Triple x s (fun a s' => s' = s ∧ Q a s) (fun _ s' => s' = s)) : Reads x := by
  intro s
  have hs : (x.run s).2 = s := ((h s).mono (fun _ _ h => h.1) (fun _ _ h => h)).state
  rw [hs]
  exact Quiet.refl s

theorem reads_dbGet {α : Type} [Row α] (table : Database → Table α) (id : ℤ) :
    Reads (dbGet table id) :=
  reads_of_triple (dbGet_triple table id)

theorem reads_paginate (query : Database → List α) (page size : ℕ) :
    Reads (paginate query page size) :=
  reads_of_triple (paginate_triple query page size)

theorem reads_getInstance (instanceId : ℤ) : Reads (getInstance instanceId) := by
  refine (reads_dbGet _ _).bind fun r => ?_
  cases r with
  | none => exact .raise _
  | some i => exact .pure i

theorem reads_getClient (clientId : ℤ) : Reads (getClient clientId) := by
  refine (reads_dbGet _ _).bind fun r => ?_
  cases r with
  | none => exact .raise _
  | some c => exact .pure c

theorem Reads.ite [Decidable c] {x y : Svc α} (hx : Reads x) (hy : Reads y) :
    Reads (if c then x else y) := Within.ite hx hy

theorem reads_bindParam (n : ℤ) : Reads (bindParam n) := .ite (.pure ()) (.raise _)

theorem reads_assertClientAccess (m : Member) (c : Client) : Reads (assertClientAccess m c) :=
  .ite (.pure ()) (.ite (.raise _) (.pure ()))

theorem reads_assertClientIdAccess (m : Member) (c : ℤ) : Reads (assertClientIdAccess m c) := by
  unfold assertClientIdAccess
  cases accessibleClientIds m with
  | none => exact .pure ()
  | some scope => exact reads_view.bind fun _ => .ite (.pure ()) (.raise _)

theorem reads_getClientInstances (clientId : ℤ) : Reads (getClientInstances clientId) :=
  (reads_getClient clientId).bind fun _ => reads_view.bind fun _ => .pure _

theorem reads_listInstances (clientIds : Option Select) (page size : ℕ) (f : InstanceFilter)
    (sort : String) :
    Reads (listInstances clientIds page size f sort) := by
  unfold listInstances
  cases f.clientId with
  | none => exact (Reads.pure ()).bind fun _ => reads_paginate _ _ _
  | some c => exact (reads_bindParam c).bind fun _ => reads_paginate _ _ _

theorem reads_listClientInstances (clientId : ℤ) (page size : ℕ) :
    Reads (listClientInstances clientId page size) :=
  (reads_getClient clientId).bind fun _ => reads_paginate _ _ _

theorem reads_getClientCost (env : Env) (clientId : ℤ) : Reads (getClientCost env clientId) :=
  (reads_getClient clientId).bind fun _ => (reads_getClientInstances clientId).bind fun _ =>
    (reads_utcnow env).bind fun _ => .pure _

theorem reads_getCostForecast (env : Env) (clientId : ℤ) : Reads (getCostForecast env clientId) :=
  (reads_getClient clientId).bind fun _ => reads_view.bind fun _ =>
    (reads_utcnow env).bind fun _ => .pure _

theorem reads_getSla (env : Env) (clientId : ℤ) : Reads (getSla env clientId) :=
  (reads_getClient clientId).bind fun _ => (reads_getClientInstances clientId).bind fun _ =>
    (reads_utcnow env).bind fun _ => .pure _

theorem reads_buildReport (env : Env) (clientIds : Option Select) :
    Reads (buildReport env clientIds) :=
  reads_view.bind fun _ => (reads_utcnow env).bind fun _ => .pure _

-- ---------------------------------------------------------------------------
-- Writing
-- ---------------------------------------------------------------------------

/-- Whatever the outcome, the committed rows moved by one effect. -/
def Moves (env : Env) (clientIds : Option Select) (w : World) (x : Svc α) : Prop :=
  Triple x w.session (fun _ s' => Effect env clientIds w s'.world)
    (fun _ s' => Effect env clientIds w s'.world)

theorem Moves.effect {x : Svc α} (h : Moves env clientIds w x) :
    Effect env clientIds w (x.run w.session).2.world :=
  Triple.state (P := fun s : Session => Effect env clientIds w s.world) h

theorem Effect.refl (w : World) : Effect env clientIds w w := .idle w.tick le_rfl

theorem Moves.guard {x : Svc α} {f : α → Svc β} {Q : α → Prop}
    (hx : Triple x w.session (fun a s' => s' = w.session ∧ Q a) (fun _ s' => s' = w.session))
    (hf : ∀ a, Q a → Moves env clientIds w (f a)) : Moves env clientIds w (x >>= f) := by
  refine Triple.bind (hx.mono (fun _ _ h => h) ?_) ?_
  · rintro _ _ rfl
    exact Effect.refl w
  · rintro a _ ⟨rfl, ha⟩
    exact hf a ha

theorem Moves.raise {α : Type} (e : ApiError) : Moves env clientIds w (Fallible.raise e : Svc α) :=
  Triple.raise (Effect.refl w)

theorem Moves.pure (a : α) : Moves env clientIds w (Pure.pure a) := Triple.pure (Effect.refl w)

theorem Moves.map {x : Svc α} (hx : Moves env clientIds w x) (f : α → β) :
    Moves env clientIds w (x >>= fun a => Pure.pure (f a)) :=
  Triple.bind hx fun _ _ h => Triple.pure h

theorem createClient_moves (env : Env) (data : ClientCreate) (w : World) :
    Moves env none w (createClient env data) := by
  refine Moves.guard (dbGet_triple _ _ w.session) ?_
  rintro (_ | m) hm
  · exact Moves.raise _
  obtain ⟨hm, hid⟩ := Table.find?_eq_some.mp hm
  refine Triple.ite (fun _ => Moves.raise _) (fun hrole => ?_)
  exact ⟨Effect.createClient _ _ rfl ⟨m, hm, hid, not_not.mp hrole⟩ (env.newId_pos _ _) rfl⟩

theorem createInstance_moves (env : Env) (data : InstanceCreate) (w : World)
    (hscope : inScope clientIds w.db data.clientId = true) :
    Moves env clientIds w (createInstance env data) := by
  refine Moves.guard (dbGet_triple _ _ w.session) ?_
  rintro (_ | c) hc
  · exact Moves.raise _
  obtain ⟨hc, hid⟩ := Table.find?_eq_some.mp hc
  exact ⟨Effect.createInstance _ _ (Table.mem_ids.mpr ⟨c, hc, hid⟩) hscope (env.newId_pos _ _) rfl
    data.cpuUsage_range rfl rfl⟩

theorem updateStatus_moves (env : Env) (instanceId : ℤ) (data : InstanceStatusUpdate) (w : World)
    (hscope : ∀ i ∈ w.db.instances, i.id = instanceId → inScope clientIds w.db i.clientId = true) :
    Moves env clientIds w (updateStatus env instanceId data) := by
  refine Moves.guard (getInstance_triple instanceId w.session) ?_
  rintro i ⟨hi, hid⟩
  refine Triple.ite (fun _ => Moves.pure i) (fun hchange => ?_)
  -- the clock is read once more when the first reading is the stored `updatedAt`
  have hstep (k : ℕ) (hk : w.tick ≤ k) : Effect env clientIds w _ :=
    .updateStatus i hi data (hscope i hi hid) hchange k hk
  by_cases hsame : env.clock w.tick = i.updatedAt
  · exact ⟨by simpa [hsame, World.session, Session.world] using hstep (w.tick + 1) (Nat.le_succ _)⟩
  · exact ⟨by simpa [hsame, World.session, Session.world] using hstep w.tick le_rfl⟩

theorem deleteInstance_moves (env : Env) (instanceId : ℤ) (w : World)
    (hscope : ∀ i ∈ w.db.instances, i.id = instanceId → inScope clientIds w.db i.clientId = true) :
    Moves env clientIds w (deleteInstance instanceId) := by
  refine Moves.guard (getInstance_triple instanceId w.session) ?_
  rintro i ⟨hi, rfl⟩
  refine Triple.ite (fun _ => Moves.raise _) (fun hstatus => ?_)
  exact ⟨Effect.deleteInstance i hi (hscope i hi rfl) hstatus⟩

theorem resolveAlert_moves (env : Env) (alertId : ℤ) (w : World)
    (hscope : ∀ a ∈ w.db.alerts, a.id = alertId → ∀ i ∈ w.db.instances, i.id = a.instanceId →
      inScope clientIds w.db i.clientId = true) :
    Moves env clientIds w (resolveAlert env alertId) := by
  refine Moves.guard (dbGet_triple _ _ w.session) ?_
  rintro (_ | a) ha
  · exact Moves.raise _
  obtain ⟨ha, hid⟩ := Table.find?_eq_some.mp ha
  refine Triple.ite (fun _ => Moves.pure a) (fun hun => ?_)
  exact ⟨Effect.resolveAlert a ha (by simpa using hun) (hscope a ha hid)⟩

theorem scan_moves (env : Env) (job : ScanJob) (page size : ℕ) (w : World) (k : ℕ) (hk : w.tick ≤ k)
    (hscope : ∀ i, job.query w.db i = true → inScope clientIds w.db i.clientId = true) :
    Triple (scan env job page size) { w.session with tick := k }
      (fun _ s' => Effect env clientIds w s'.world)
        (fun _ s' => Effect env clientIds w s'.world) := by
  refine Triple.of_ok (scan_run env job page size _) ?_
  have hstep : Effect env clientIds w _ := .scan job hscope k hk
  unfold Session.scanned
  by_cases hnone : (missingAlerts job w.db.alerts (scanMatches job w.db)).isEmpty = true
  · simpa [hnone, List.isEmpty_iff.mp hnone, World.session, Session.world, Session.addAlerts,
      addAlerts]
      using hstep
  · simpa [hnone, World.session, Session.world, Session.addAlerts] using hstep

theorem checkLongStopped_moves (env : Env) (page size : ℕ) (w : World)
    (hscope : ∀ c, inScope ids w.db c = true → inScope clientIds w.db c = true) :
    Moves env clientIds w (checkLongStopped env ids page size) :=
  utcnow_bind (scan_moves env _ page size w (w.tick + 1) (Nat.le_succ _)
    fun i hi => hscope i.clientId (Bool.and_eq_true_iff.mp hi).2)

theorem scan_moves_now (env : Env) (job : ScanJob) (page size : ℕ) (w : World)
    (hscope : ∀ c, inScope job.clientIds w.db c = true → inScope clientIds w.db c = true) :
    Moves env clientIds w (scan env job page size) :=
  scan_moves env job page size w w.tick le_rfl fun i hi =>
    hscope i.clientId (Bool.and_eq_true_iff.mp hi).2

-- ---------------------------------------------------------------------------
-- Requests
-- ---------------------------------------------------------------------------

namespace InstanceController

theorem ownInstance_found (m : Member) (instanceId : ℤ) (w : World) :
    Triple (ownInstance m instanceId) w.session
      (fun i s' => s' = w.session ∧ i ∈ w.db.instances ∧ i.id = instanceId ∧
        inScope (accessibleClientIds m) w.db i.clientId = true)
      (fun _ s' => s' = w.session) := by
  refine Triple.bind (getInstance_triple instanceId w.session) ?_
  rintro i _ ⟨rfl, hi, hid⟩
  refine Triple.bind (assertClientIdAccess_triple m i.clientId w.session) ?_
  rintro _ _ ⟨rfl, hscope⟩
  exact Triple.pure ⟨rfl, hi, hid, hscope⟩

theorem reads_ownInstance (m : Member) (instanceId : ℤ) : Reads (ownInstance m instanceId) :=
  (reads_getInstance instanceId).bind fun i => (reads_assertClientIdAccess m i.clientId).bind
    fun _ => .pure i

/-- Writing to an instance that passed the check stays in scope, because the
id is the primary key. -/
theorem ownInstance_guard {x : Svc α}
    (hx : (∀ i ∈ w.db.instances, i.id = instanceId →
        inScope (accessibleClientIds m) w.db i.clientId = true) →
      Moves env (accessibleClientIds m) w x) :
    Moves env (accessibleClientIds m) w (ownInstance m instanceId >>= fun _ => x) := by
  refine Moves.guard (ownInstance_found m instanceId w) ?_
  rintro i ⟨hi, hid, hscope⟩
  refine hx fun j hj hjd => ?_
  rw [Table.unique hj hi (hjd.trans hid.symm)]
  exact hscope

end InstanceController

namespace ClientController

theorem ownClient_triple (m : Member) (clientId : ℤ) (s : Session) :
    Triple (ownClient m clientId) s (fun _ s' => s' = s) (fun _ s' => s' = s) := by
  refine Triple.bind (getClient_triple clientId s) ?_
  rintro c _ ⟨rfl, hc, -⟩
  exact (assertClientAccess_triple m _ hc).mono (fun _ _ h => h.1) (fun _ _ h => h)

theorem reads_ownClient (m : Member) (clientId : ℤ) : Reads (ownClient m clientId) :=
  (reads_getClient clientId).bind fun c => reads_assertClientAccess m c

end ClientController

/-- Every request behind `get_current_member` has one effect, in the scope of
its caller. -/
theorem handle_moves (env : Env) (m : Member) (req : MemberRequest) (w : World) :
    Moves env (accessibleClientIds m) w (handle env m req) := by
  cases req with
  | createInstance body =>
    refine Moves.guard (getClient_triple body.clientId w.session) fun c hc => ?_
    refine Moves.guard (assertClientAccess_triple m w.session hc.1) fun _ hscope => ?_
    exact (createInstance_moves env body w (hc.2 ▸ hscope)).map Payload.inst
  | listInstances page size filter sort =>
    exact ((reads_listInstances _ _ _ _ _).bind fun _ => .pure _).effect env _ w
  | getInstance instanceId =>
    exact ((InstanceController.reads_ownInstance m instanceId).bind fun _ => .pure _).effect env _ w
  | updateStatus instanceId body =>
    exact InstanceController.ownInstance_guard fun h =>
      (updateStatus_moves env instanceId body w h).map Payload.inst
  | deleteInstance instanceId =>
    exact InstanceController.ownInstance_guard fun h =>
      (deleteInstance_moves env instanceId w h).map fun _ => Payload.noContent
  | diagnoseInstance instanceId =>
    exact ((InstanceController.reads_ownInstance m instanceId).bind fun _ => reads_view.bind
      fun _ => .pure _).effect env _ w
  | warnings page size =>
    exact (scan_moves_now env (warningsJob env _) _ _ w fun _ h => h).map _
  | errors page size => exact (scan_moves_now env (errorsJob _) _ _ w fun _ h => h).map _
  | longStopped page size => exact (checkLongStopped_moves env _ _ w fun _ h => h).map _
  | report => exact ((reads_buildReport env _).bind fun _ => .pure _).effect env _ w
  | listAlerts page size filter =>
    exact ((reads_paginate _ _ _).bind fun _ => .pure _).effect env _ w
  | resolveAlert alertId =>
    refine Moves.guard (dbGet_triple _ _ w.session) ?_
    rintro (_ | a) ha
    · exact Moves.raise _
    refine view_bind ?_
    split
    · exact Moves.raise _
    · next i hi =>
      have hown : i ∈ w.db.instances ∧ i.id = a.instanceId := Table.find?_eq_some.mp hi
      refine Moves.guard (assertClientIdAccess_triple m i.clientId w.session) fun _ hscope => ?_
      refine (resolveAlert_moves env alertId w fun b hb hbd j hj hjd => ?_).map Payload.alert
      have hb' := Table.find?_eq_some.mp ha
      rw [Table.unique hb hb'.1 (hbd.trans hb'.2.symm)] at hjd
      rw [Table.unique hj hown.1 (hjd.trans hown.2.symm)]
      exact hscope
  | createClient body =>
    refine Moves.guard (requireAdmin_triple m w.session) fun _ hadmin => ?_
    have hnone : accessibleClientIds m = none := if_pos hadmin
    rw [hnone]
    exact (createClient_moves env body w).map Payload.client
  | listClients page size => exact ((reads_paginate _ _ _).bind fun _ => .pure _).effect env _ w
  | clientInstances clientId page size =>
    exact ((ClientController.reads_ownClient m clientId).bind fun _ =>
      (reads_listClientInstances _ _ _).bind fun _ => .pure _).effect env _ w
  | clientCost clientId =>
    exact ((ClientController.reads_ownClient m clientId).bind fun _ =>
      (reads_getClientCost env _).bind fun _ => .pure _).effect env _ w
  | clientCostForecast clientId =>
    exact ((ClientController.reads_ownClient m clientId).bind fun _ =>
      (reads_getCostForecast env _).bind fun _ => .pure _).effect env _ w
  | clientSla clientId =>
    exact ((ClientController.reads_ownClient m clientId).bind fun _ =>
      (reads_getSla env _).bind fun _ => .pure _).effect env _ w

theorem answer_moves (env : Env) (sub : ℤ) (req : Request) (w : World)
    (h : ∀ m ∈ w.db.members, m.id = sub → ∀ req, Moves env clientIds w (handle env m req)) :
    Moves env clientIds w (answer env sub req) := by
  cases req with
  | health => exact Moves.pure _
  | login email password =>
    refine view_bind ?_
    split
    · exact Moves.raise _
    · exact Triple.ite (fun _ => Moves.pure _) (fun _ => Moves.raise _)
  | logout => exact Moves.pure _
  | ofMember req =>
    refine Moves.guard (getCurrentMember_triple sub w.session) fun m hm => ?_
    obtain ⟨hm, hid⟩ := Table.find?_eq_some.mp hm
    exact h m hm hid req

theorem serve_effect (env : Env) (req : Request) (w : World) (hm : m ∈ w.db.members) :
    Effect env (accessibleClientIds m) w (serve env m.id req w).2 := by
  refine (answer_moves env m.id req w fun m' hm' hid req => ?_).effect
  rw [Table.unique hm' hm hid]
  exact handle_moves env m req w

theorem Effect.unscoped (h : Effect env clientIds w w') : Effect env none w w' := by
  cases h with
  | idle n hn => exact .idle n hn
  | createClient c fresh _ hmanager hid hstamp =>
    exact .createClient c fresh rfl hmanager hid hstamp
  | createInstance i fresh hclient _ hid hcost hcpu hlaunched hupdated =>
    exact .createInstance i fresh hclient rfl hid hcost hcpu hlaunched hupdated
  | updateStatus i hi data _ hchange k hk => exact .updateStatus i hi data rfl hchange k hk
  | deleteInstance i hi _ hstatus => exact .deleteInstance i hi rfl hstatus
  | scan job _ k hk => exact .scan job (fun _ _ => rfl) k hk
  | resolveAlert a ha hunresolved _ => exact .resolveAlert a ha hunresolved (fun _ _ _ => rfl)

theorem Moves.unscoped {x : Svc α} (h : Moves env clientIds w x) : Moves env none w x :=
  h.mono (fun _ _ => Effect.unscoped) (fun _ _ => Effect.unscoped)

theorem serve_effect_unscoped (env : Env) (sub : ℤ) (req : Request) (w : World) :
    Effect env none w (serve env sub req w).2 :=
  (answer_moves env sub req w fun m _ _ req => (handle_moves env m req w).unscoped).effect

end CloudMonitor
