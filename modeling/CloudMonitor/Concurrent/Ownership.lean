import CloudMonitor.Concurrent.Requests

/-!
# Ownership while requests are in flight

A writing request checks on loaded copies whether the caller may see the row,
and writes by id later. What makes the check still right by then is that
nobody changes the owner of a row (`Evolves`): every request relies on it and
every request keeps to it. The exception is an id that was given to another
row in between, which is what `Stale` says.
-/

namespace CloudMonitor

open Fallible Program

-- ---------------------------------------------------------------------------
-- What everyone relies on
-- ---------------------------------------------------------------------------

/-- All columns but `status`, `cpuUsage` and `updatedAt`. -/
structure SameInstance (r r' : Instance) : Prop where
  instanceName : r'.instanceName = r.instanceName
  region : r'.region = r.region
  instanceType : r'.instanceType = r.instanceType
  monthlyCost : r'.monthlyCost = r.monthlyCost
  clientId : r'.clientId = r.clientId
  launchedAt : r'.launchedAt = r.launchedAt

/-- All columns but the two a resolution sets, and a resolved alert stays so. -/
structure SameAlert (a a' : Alert) : Prop where
  instanceId : a'.instanceId = a.instanceId
  alertType : a'.alertType = a.alertType
  message : a'.message = a.message
  detectedAt : a'.detectedAt = a.detectedAt
  resolved : a.isResolved = true → a'.isResolved = true

theorem SameInstance.refl (r : Instance) : SameInstance r r := ⟨rfl, rfl, rfl, rfl, rfl, rfl⟩

theorem SameInstance.trans {a b c : Instance} (h : SameInstance a b) (h' : SameInstance b c) :
    SameInstance a c where
  instanceName := h'.instanceName.trans h.instanceName
  region := h'.region.trans h.region
  instanceType := h'.instanceType.trans h.instanceType
  monthlyCost := h'.monthlyCost.trans h.monthlyCost
  clientId := h'.clientId.trans h.clientId
  launchedAt := h'.launchedAt.trans h.launchedAt

theorem SameAlert.refl (a : Alert) : SameAlert a a := ⟨rfl, rfl, rfl, rfl, id⟩

theorem SameAlert.trans {a b c : Alert} (h : SameAlert a b) (h' : SameAlert b c) :
    SameAlert a c where
  instanceId := h'.instanceId.trans h.instanceId
  alertType := h'.alertType.trans h.alertType
  message := h'.message.trans h.message
  detectedAt := h'.detectedAt.trans h.detectedAt
  resolved ha := h'.resolved (h.resolved ha)

namespace LiveDatabase

variable {ι : Type}

/-- What the rows may become: members stay, clients stay and are added, and
an instance or an alert that is not deleted stays what it is. -/
structure Evolves (s t : LiveDatabase ι) : Prop where
  members : t.members = s.members
  clients : ∀ c ∈ s.clients, c ∈ t.clients
  instances : Tracked.Passes SameInstance s.instances t.instances
  alerts : Tracked.Passes SameAlert s.alerts t.alerts

/-- What holds of the rows between any two statements. -/
structure Sound (env : Env) (s : LiveDatabase ι) : Prop where
  client_manager : ∀ c ∈ s.clients, ∃ m ∈ s.members, m.id = c.managerId ∧ m.role = .clientManager
  instance_client : ∀ r ∈ s.instances.table, r.clientId ∈ s.clients.ids
  instance_priced : ∀ r ∈ s.instances.table,
    r.monthlyCost = env.settings.unitPrices r.instanceType
  instance_cpu : ∀ r ∈ s.instances.table, 0 ≤ r.cpuUsage ∧ r.cpuUsage ≤ 100
  alert_resolved : ∀ a ∈ s.alerts.table, a.isResolved = a.resolvedAt.isSome

def InScope (m : Member) (s : LiveDatabase ι) (clientId : ℤ) : Prop :=
  inScope (accessibleClientIds m) s.db clientId = true

/-- The instance with this id is the caller's, unless the id was given away
since the request loaded it. -/
def MayTouch (m : Member) (i : ι) (s : LiveDatabase ι) (instanceId : ℤ) : Prop :=
  s.instances.Stale i instanceId ∨
    ∀ r ∈ s.instances.table, r.id = instanceId → InScope m s r.clientId

/-- The request has loaded `r` and checked its owner. -/
structure Checked (m : Member) (i : ι) (s : LiveDatabase ι) (r : Instance) : Prop where
  holds : Tracked.Holds SameInstance s.instances i r
  scope : InScope m s r.clientId

section
variable {env : Env} {s t u : LiveDatabase ι} {m : Member} {i : ι} {r : Instance}

theorem Evolves.refl (s : LiveDatabase ι) : Evolves s s where
  members := rfl
  clients _ hc := hc
  instances := .refl SameInstance.refl _
  alerts := .refl SameAlert.refl _

theorem Evolves.trans (h : Evolves s t) (h' : Evolves t u) : Evolves s u where
  members := h'.members.trans h.members
  clients c hc := h'.clients c (h.clients c hc)
  instances := h.instances.trans SameInstance.trans h'.instances
  alerts := h.alerts.trans SameAlert.trans h'.alerts

theorem Evolves.member (h : Evolves s t) (hm : m ∈ s.members) : m ∈ t.members := by
  rwa [h.members]

theorem InScope.evolves (h : Evolves s t) {c : ℤ} (hs : InScope m s c) : InScope m t c := by
  by_cases hm : m.role = .admin
  · exact inScope_admin hm
  · obtain ⟨r, hr, hman, hid⟩ := (inScope_manager hm).mp hs
    exact (inScope_manager hm).mpr ⟨r, h.clients r hr, hman, hid⟩

theorem Checked.evolves (h : Evolves s t) (hr : Checked m i s r) : Checked m i t r where
  holds := hr.holds.passes SameInstance.trans h.instances
  scope := hr.scope.evolves h

theorem Checked.row (h : Checked m i s r) {r' : Instance} (hr' : r' ∈ s.instances.table)
    (hid : r'.id = r.id) : s.instances.Stale i r.id ∨ InScope m s r'.clientId := by
  refine (h.holds.row hr' hid).imp id fun hsame => ?_
  rw [hsame.clientId]
  exact h.scope

theorem Checked.mayTouch (h : Checked m i s r) : MayTouch m i s r.id := by
  by_cases hstale : s.instances.Stale i r.id
  · exact .inl hstale
  · exact .inr fun r' hr' hid => (h.row hr' hid).resolve_left hstale

end

-- ---------------------------------------------------------------------------
-- What a statement does
-- ---------------------------------------------------------------------------

/-- The statement changes no row. -/
structure ReadOnly (s t : LiveDatabase ι) : Prop where
  members : t.members = s.members
  clients : t.clients = s.clients
  instances_table : t.instances.table = s.instances.table
  alerts_table : t.alerts.table = s.alerts.table
  instances : Tracked.Passes SameInstance s.instances t.instances
  alerts : Tracked.Passes SameAlert s.alerts t.alerts

/-- Everything a statement of request `i` can do to the rows, for a caller
`m`, with what was checked before it. -/
inductive Writes [DecidableEq ι] (env : Env) (m : Member) (i : ι) (s : LiveDatabase ι) :
    LiveDatabase ι → Prop
  | createClient (c : Client) (fresh : Row.id c ∉ s.clients.ids) (tick : ℕ)
      (hadmin : m.role = .admin)
      (hmanager : ∃ m ∈ s.members, m.id = c.managerId ∧ m.role = .clientManager) :
      Writes env m i s { s with clients := s.clients.insert c fresh, tick := tick }
  | createInstance (r : Instance) (fresh : Row.id r ∉ s.instances.table.ids) (tick : ℕ)
      (hclient : r.clientId ∈ s.clients.ids) (hscope : InScope m s r.clientId)
      (hprice : r.monthlyCost = env.settings.unitPrices r.instanceType)
      (hcpu : 0 ≤ r.cpuUsage ∧ r.cpuUsage ≤ 100) :
      Writes env m i s
        { s with
          instances := (s.instances.put (s.instances.table.insert r fresh)).see i [r.id]
          tick := tick }
  | updateInstance (r r' : Instance) (hr : r ∈ s.instances.table) (tick : ℕ) (hid : r'.id = r.id)
      (hsame : SameInstance r r') (hcpu : 0 ≤ r'.cpuUsage ∧ r'.cpuUsage ≤ 100)
      (htouch : MayTouch m i s r.id) :
      Writes env m i s
        { s with instances := s.instances.put (s.instances.table.update r'), tick := tick }
  | deleteInstance (instanceId : ℤ) (p : Alert → Bool) (htouch : MayTouch m i s instanceId)
      (halerts : ∀ a ∈ s.alerts.table, p a = true →
        s.alerts.Stale i a.id ∨ a.instanceId = instanceId) :
      Writes env m i s
        { s with
          instances := s.instances.remove (·.id == instanceId)
          alerts := s.alerts.remove p }
  | insertAlerts (new : List NewAlert) (owner : ℤ → Option ι) (tick : ℕ)
      (htouch : ∀ n ∈ new, MayTouch m i s n.instanceId) :
      Writes env m i s
        { s with
          alerts := s.alerts.put (addAlerts env s.tick new s.alerts.table)
          owner := owner
          tick := tick }
  | updateAlert (a a' : Alert) (ha : a ∈ s.alerts.table) (hid : a'.id = a.id)
      (hsame : SameAlert a a') (hresolved : a'.isResolved = a'.resolvedAt.isSome)
      (htouch : s.alerts.Stale i a.id ∨ MayTouch m i s a.instanceId) :
      Writes env m i s { s with alerts := s.alerts.put (s.alerts.table.update a') }

section
variable {env : Env} {s t : LiveDatabase ι} {m : Member} {i : ι}

theorem ReadOnly.refl (s : LiveDatabase ι) : ReadOnly s s where
  members := rfl
  clients := rfl
  instances_table := rfl
  alerts_table := rfl
  instances := .refl SameInstance.refl _
  alerts := .refl SameAlert.refl _

theorem ReadOnly.evolves (h : ReadOnly s t) : Evolves s t where
  members := h.members
  clients := by rw [h.clients]; exact fun _ hc => hc
  instances := h.instances
  alerts := h.alerts

theorem ReadOnly.sound (h : ReadOnly s t) (hs : Sound env s) : Sound env t where
  client_manager := by rw [h.clients, h.members]; exact hs.client_manager
  instance_client := by rw [h.instances_table, h.clients]; exact hs.instance_client
  instance_priced := by rw [h.instances_table]; exact hs.instance_priced
  instance_cpu := by rw [h.instances_table]; exact hs.instance_cpu
  alert_resolved := by rw [h.alerts_table]; exact hs.alert_resolved

theorem kept_of_mem {α : Type} [Row α] {keep : α → α → Prop} (hrefl : ∀ r, keep r r)
    {t u : Table α} (h : ∀ r ∈ t, r ∈ u) :
    ∀ r ∈ t, ∃ r' ∈ u, Row.id r' = Row.id r ∧ keep r r' :=
  fun r hr => ⟨r, h r hr, rfl, hrefl r⟩

theorem kept_of_update {α : Type} [Row α] {keep : α → α → Prop} (hrefl : ∀ r, keep r r)
    {t : Table α} {r r' : α} (hr : r ∈ t) (hid : Row.id r' = Row.id r) (hkeep : keep r r') :
    ∀ x ∈ t, ∃ x' ∈ t.update r', Row.id x' = Row.id x ∧ keep x x' := by
  intro x hx
  by_cases hxr : Row.id x = Row.id r
  · obtain rfl := Table.unique hx hr hxr
    exact ⟨r', Table.mem_update.mpr (.inl ⟨rfl, Table.mem_ids.mpr ⟨x, hx, hid.symm⟩⟩), hid, hkeep⟩
  · exact ⟨x, Table.mem_update.mpr (.inr ⟨hx, fun h => hxr (h.trans hid)⟩), rfl, hrefl x⟩

variable [DecidableEq ι]

theorem Writes.evolves (h : Writes env m i s t) : Evolves s t := by
  cases h with
  | createClient c fresh =>
    exact { Evolves.refl s with
      clients := fun c' hc' => (Table.mem_insert fresh).mpr (.inr hc') }
  | createInstance r fresh =>
    exact { Evolves.refl s with
      instances := (Tracked.Passes.put (kept_of_mem SameInstance.refl
        fun r' hr' => (Table.mem_insert fresh).mpr (.inr hr'))).trans SameInstance.trans
          (.see SameInstance.refl _ i [r.id]) }
  | updateInstance r r' hr tick hid hsame =>
    exact { Evolves.refl s with
      instances := .put (kept_of_update SameInstance.refl hr hid hsame) }
  | deleteInstance instanceId p =>
    exact { Evolves.refl s with
      instances := .remove SameInstance.refl _ _
      alerts := .remove SameAlert.refl _ _ }
  | insertAlerts new =>
    exact { Evolves.refl s with
      alerts := .put (kept_of_mem SameAlert.refl fun a ha => mem_addAlerts_of_mem ha) }
  | updateAlert a a' ha hid hsame =>
    exact { Evolves.refl s with
      alerts := .put (kept_of_update SameAlert.refl ha hid hsame) }

theorem Writes.sound (h : Writes env m i s t) (hs : Sound env s) : Sound env t := by
  cases h with
  | createClient c fresh tick hadmin hmanager =>
    exact { hs with
      client_manager := Table.forall_mem_insert fresh hmanager hs.client_manager
      instance_client := fun r hr =>
        (Table.mem_ids_insert fresh).mpr (.inr (hs.instance_client r hr)) }
  | createInstance r fresh tick hclient hscope hprice hcpu =>
    exact { hs with
      instance_client := Table.forall_mem_insert fresh hclient hs.instance_client
      instance_priced := Table.forall_mem_insert fresh hprice hs.instance_priced
      instance_cpu := Table.forall_mem_insert fresh hcpu hs.instance_cpu }
  | updateInstance r r' hr tick hid hsame hcpu =>
    have hclient : r'.clientId ∈ s.clients.ids := hsame.clientId ▸ hs.instance_client r hr
    have hprice : r'.monthlyCost = env.settings.unitPrices r'.instanceType := by
      rw [hsame.monthlyCost, hsame.instanceType]
      exact hs.instance_priced r hr
    exact { hs with
      instance_client := Table.forall_mem_update hclient hs.instance_client
      instance_priced := Table.forall_mem_update hprice hs.instance_priced
      instance_cpu := Table.forall_mem_update hcpu hs.instance_cpu }
  | deleteInstance instanceId p =>
    exact { hs with
      instance_client := Table.forall_mem_delete hs.instance_client
      instance_priced := Table.forall_mem_delete hs.instance_priced
      instance_cpu := Table.forall_mem_delete hs.instance_cpu
      alert_resolved := Table.forall_mem_delete hs.alert_resolved }
  | insertAlerts new =>
    refine { hs with alert_resolved := fun a ha => ?_ }
    rcases mem_addAlerts ha with ha | ⟨n, -, k, -, -, hrow⟩
    · exact hs.alert_resolved a ha
    · rw [hrow]
      rfl
  | updateAlert a a' ha hid hsame hresolved =>
    exact { hs with alert_resolved := Table.forall_mem_update hresolved hs.alert_resolved }

end

variable [DecidableEq ι]

/-- What request `i`, made by the member with this id, guarantees. -/
def Guarantees (env : Env) (subs : ι → ℤ) (i : ι) (s t : LiveDatabase ι) : Prop :=
  ReadOnly s t ∨ ∃ m ∈ s.members, m.id = subs i ∧ Writes env m i s t

def discipline (env : Env) (subs : ι → ℤ) : Discipline ι (LiveDatabase ι) where
  inv := Sound env
  rely := Evolves
  guar := Guarantees env subs
  rely_refl := Evolves.refl
  rely_trans := Evolves.trans
  guar_refl _ s := .inl (ReadOnly.refl s)
  guar_inv hs h := by
    obtain hread | ⟨m, -, -, hwrites⟩ := h
    · exact hread.sound hs
    · exact hwrites.sound hs
  guar_rely _ h := by
    obtain hread | ⟨m, -, -, hwrites⟩ := h
    · exact hread.evolves
    · exact hwrites.evolves

end LiveDatabase

end CloudMonitor
