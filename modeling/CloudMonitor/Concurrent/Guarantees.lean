import CloudMonitor.Concurrent.Ownership

/-!
# Every writing request keeps its guarantee

One lemma an endpoint: whatever the others do between its statements, each of
its statements is `ReadOnly` or one of `Writes`, and what it answers is `Scoped`.
-/

namespace CloudMonitor

open Fallible Program LiveDatabase

/-- The rows in an answer are the caller's, unless their id was given away
while the request was in flight. -/
def Payload.Scoped (m : Member) (i : ι) (s : LiveDatabase ι) : Payload → Prop
  | .inst r => s.instances.Stale i r.id ∨ InScope m s r.clientId
  | .instances p => ∀ r ∈ p.items, InScope m s r.clientId
  | .alert a => s.alerts.Stale i a.id ∨ ∃ r, Checked m i s r ∧ r.id = a.instanceId
  | .client _ => m.role = .admin
  | _ => True

def Answers (subs : ι → ℤ) (i : ι) (p : Payload) (s : LiveDatabase ι) : Prop :=
  ∃ m ∈ s.members, m.id = subs i ∧ p.Scoped m i s

section
variable {ι : Type} {i : ι} {m : Member} {s t : LiveDatabase ι}

theorem Payload.Scoped.evolves (h : Evolves s t) {p : Payload} (hp : p.Scoped m i s) :
    p.Scoped m i t := by
  cases p with
  | inst r => exact hp.imp (·.passes h.instances) (·.evolves h)
  | instances p => exact fun r hr => (hp r hr).evolves h
  | alert a =>
    refine hp.imp (·.passes h.alerts) ?_
    rintro ⟨r, hr, hid⟩
    exact ⟨r, hr.evolves h, hid⟩
  | client c => exact hp
  | noContent | health | token | diagnosis | report | alerts | clients | cost | forecast | sla =>
    trivial

-- ---------------------------------------------------------------------------
-- Statements that change no row
-- ---------------------------------------------------------------------------

theorem bindValue_triple (n : ℤ) (s : LiveDatabase ι) :
    Triple (Statement.bindParam n) s (fun _ t => t = s) (fun _ t => t = s) :=
  Triple.ite (fun _ => Triple.pure rfl) (fun _ => Triple.raise rfl)

theorem readOnly_tick (s : LiveDatabase ι) (tick : ℕ) : ReadOnly s { s with tick := tick } :=
  { ReadOnly.refl s with }

theorem utcnow_readOnly (env : Env) (s : LiveDatabase ι) :
    Triple (Statement.utcnow env) s (fun _ t => ReadOnly s t ∧ True) (fun _ t => ReadOnly s t) :=
  ⟨⟨readOnly_tick s _, trivial⟩⟩

theorem selectMember_readOnly (id : ℤ) (s : LiveDatabase ι) :
    Triple (Statement.selectMember id) s
      (fun r t => ReadOnly s t ∧ ∀ m ∈ r, m ∈ t.members ∧ m.id = id) (fun _ t => ReadOnly s t) := by
  refine Triple.bind ((bindValue_triple id s).mono (fun _ _ h => h) ?_) ?_
  · rintro _ _ rfl
    exact ReadOnly.refl _
  · rintro _ _ rfl
    exact ⟨⟨ReadOnly.refl _, fun m hm => Table.find?_eq_some.mp hm⟩⟩

theorem selectClient_readOnly (id : ℤ) (s : LiveDatabase ι) :
    Triple (Statement.selectClient id) s
      (fun r t => ReadOnly s t ∧ ∀ c ∈ r, c ∈ t.clients ∧ c.id = id) (fun _ t => ReadOnly s t) := by
  refine Triple.bind ((bindValue_triple id s).mono (fun _ _ h => h) ?_) ?_
  · rintro _ _ rfl
    exact ReadOnly.refl _
  · rintro _ _ rfl
    exact ⟨⟨ReadOnly.refl _, fun c hc => Table.find?_eq_some.mp hc⟩⟩

theorem refresh_readOnly {α : Type} [Row α] (table : LiveDatabase ι → Table α) (id : ℤ)
    (s : LiveDatabase ι) :
    Triple (Statement.refresh table id) s
      (fun r t => ReadOnly s t ∧ r ∈ table t ∧ Row.id r = id) (fun _ t => ReadOnly s t) := by
  refine Triple.get_bind ?_
  cases hfind : (table s).find? id with
  | none => exact Triple.raise (ReadOnly.refl s)
  | some r => exact Triple.pure ⟨ReadOnly.refl s, Table.find?_eq_some.mp hfind⟩

end

-- ---------------------------------------------------------------------------
-- One statement of many
-- ---------------------------------------------------------------------------

section
variable {ι : Type} [DecidableEq ι] {env : Env} {subs : ι → ℤ} {i : ι} {m : Member}
  {s t : LiveDatabase ι}

theorem answers_stable (i : ι) (p : Payload) : (discipline env subs).Stable (Answers subs i p) := by
  rintro s t h ⟨m, hm, hid, hp⟩
  exact ⟨m, by rwa [h.members], hid, hp.evolves h⟩

/-- One statement, and the rest of the program from what it leaves. -/
theorem meets_bind {α β : Type} {Q : β → LiveDatabase ι → Prop} {P : α → LiveDatabase ι → Prop}
    {x : Statement ι α} {f : α → Live ι β}
    (h : ∀ t, Evolves s t → Sound env t →
      Triple x t (fun a u => Guarantees env subs i t u ∧ P a u)
        (fun _ u => Guarantees env subs i t u))
    (hf : ∀ a u, Evolves s u → P a u → Meets (discipline env subs) i Q (f a) u) :
    Meets (discipline env subs) i Q (atomic x >>= f) s := by
  refine Meets.bind (P := fun a u => Evolves s u ∧ P a u) (Meets.atomic fun t ht hs => ?_)
    fun a u hu => hf a u hu.1 hu.2
  refine (h t ht hs).mono (fun a u hu => ⟨hu.1, ?_, hu.2⟩) fun _ _ hu => hu
  exact ht.trans ((discipline env subs).guar_rely hs hu.1)

/-- A statement that only reads. -/
theorem reads_bind {α β : Type} {Q : β → LiveDatabase ι → Prop} {P : α → LiveDatabase ι → Prop}
    {x : Statement ι α} {f : α → Live ι β}
    (h : ∀ t, Evolves s t → Sound env t →
      Triple x t (fun a u => ReadOnly t u ∧ P a u) (fun _ u => ReadOnly t u))
    (hf : ∀ a u, Evolves s u → P a u → Meets (discipline env subs) i Q (f a) u) :
    Meets (discipline env subs) i Q (atomic x >>= f) s :=
  meets_bind (fun t ht hs => (h t ht hs).mono (fun _ _ hu => ⟨.inl hu.1, hu.2⟩)
    fun _ _ hu => .inl hu) hf

theorem assertClientIdAccess_meets (m : Member) (clientId : ℤ) (s : LiveDatabase ι) :
    Meets (discipline env subs) i (fun _ t => Evolves s t ∧ InScope m t clientId)
      (Live.assertClientIdAccess m clientId) s := by
  unfold Live.assertClientIdAccess InScope inScope
  cases accessibleClientIds m with
  | none => exact Meets.pure ⟨Evolves.refl s, rfl⟩
  | some scope =>
    refine reads_bind (P := fun b t => b = true → clientId ∈ scope t.clients) (fun t _ _ => ?_)
      fun b u hu hb => Meets.ite (fun h => Meets.pure ⟨hu, decide_eq_true (hb h)⟩)
        fun _ => Meets.fail _ _
    exact ⟨⟨ReadOnly.refl t, fun h => of_decide_eq_true h⟩⟩

theorem assertClientAccess_meets {c : Client} (hc : c ∈ s.clients) :
    Meets (discipline env subs) i (fun _ t => t = s ∧ InScope m s c.id)
      (Live.assertClientAccess m c) s := by
  refine Meets.ite (fun h => Meets.pure ⟨rfl, inScope_admin h⟩) fun hrole => ?_
  refine Meets.ite (fun _ => Meets.fail _ _) fun hman => Meets.pure ⟨rfl, ?_⟩
  exact (inScope_manager hrole).mpr ⟨c, hc, not_not.mp hman, rfl⟩

-- ---------------------------------------------------------------------------
-- Creating
-- ---------------------------------------------------------------------------

theorem createClient_meets (hm : m ∈ s.members) (hid : m.id = subs i) (body : ClientCreate) :
    Meets (discipline env subs) i (Answers subs i) (Live.createClient env m body) s := by
  refine Meets.ite (fun _ => Meets.fail _ _) fun hrole => ?_
  have hadmin : m.role = .admin := not_not.mp hrole
  refine reads_bind (fun t _ _ => selectMember_readOnly _ t) fun r u hu hr => ?_
  cases r with
  | none => exact Meets.fail _ _
  | some manager =>
    obtain ⟨hmanager, hmid⟩ := hr manager rfl
    refine Meets.ite (fun _ => Meets.fail _ _) fun hrole => ?_
    refine meets_bind (P := fun _ _ => True) (fun t ht _ => ?_) fun c v hv _ => ?_
    · refine ⟨⟨.inr ⟨m, ht.member (hu.member hm), hid, ?_⟩, trivial⟩⟩
      exact Writes.createClient _ _ _ hadmin
        ⟨manager, ht.member hmanager, hmid, not_not.mp hrole⟩
    · refine reads_bind (fun t _ _ => refresh_readOnly _ _ t) fun c w hw _ => Meets.pure ?_
      exact ⟨m, hw.member (hv.member (hu.member hm)), hid, hadmin⟩

/-- A refreshed row is still the one that was checked, or its id was given away. -/
theorem refreshInstance_meets (hm : m ∈ s.members) (hid : m.id = subs i) {r : Instance}
    (hr : Checked m i s r) :
    Meets (discipline env subs) i (Answers subs i)
      (do return .inst (← atomic (Statement.refresh (·.instances.table) r.id))) s := by
  refine reads_bind (fun t _ _ => refresh_readOnly _ _ t) fun r' u hu hr' => Meets.pure ?_
  refine ⟨m, hu.member hm, hid, ?_⟩
  have hrid : r'.id = r.id := hr'.2
  obtain hstale | hscope := (hr.evolves hu).row hr'.1 hrid
  · exact .inl (by rwa [hrid])
  · exact .inr hscope

theorem createInstance_meets (hm : m ∈ s.members) (hid : m.id = subs i) (body : InstanceCreate) :
    Meets (discipline env subs) i (Answers subs i) (Live.createInstance env i m body) s := by
  refine reads_bind (fun t _ _ => selectClient_readOnly _ t) fun r u hu hr => ?_
  cases r with
  | none => exact Meets.fail _ _
  | some c =>
    obtain ⟨hc, hcid⟩ := hr c rfl
    refine Meets.bind (assertClientAccess_meets (m := m) hc) ?_
    rintro _ _ ⟨rfl, hscope⟩
    rw [hcid] at hscope
    refine reads_bind (fun t _ _ => utcnow_readOnly env t) fun launchedAt v hv _ => ?_
    refine meets_bind (P := fun r t => Checked m i t r) (fun t ht _ => ?_) fun r w hw hr => ?_
    · have hvt := hv.trans ht
      have hclient : body.clientId ∈ t.clients.ids :=
        Table.mem_ids.mpr ⟨c, hvt.clients c hc, hcid⟩
      refine ⟨⟨.inr ⟨m, hvt.member (hu.member hm), hid, ?_⟩, ?_, hscope.evolves hvt⟩⟩
      · exact Writes.createInstance _ _ _ hclient (hscope.evolves hvt) rfl body.cpuUsage_range
      · exact Tracked.holds_see SameInstance.refl (Table.mem_insertNew.mpr (.inl rfl))
          (List.mem_singleton.mpr rfl)
    · exact refreshInstance_meets (hw.member (hv.member (hu.member hm))) hid hr

-- ---------------------------------------------------------------------------
-- One instance
-- ---------------------------------------------------------------------------

theorem readOnly_see (s : LiveDatabase ι) (i : ι) (ids : List ℤ) :
    ReadOnly s { s with instances := s.instances.see i ids } :=
  { ReadOnly.refl s with instances := .see SameInstance.refl _ i ids }

theorem ownInstance_meets (m : Member) (instanceId : ℤ) (s : LiveDatabase ι) :
    Meets (discipline env subs) i (fun r t => Evolves s t ∧ Checked m i t r)
      (Live.ownInstance i m instanceId) s := by
  refine reads_bind (P := fun r t => ∀ x ∈ r, Tracked.Holds SameInstance t.instances i x)
    (fun t _ _ => ?_) fun r u hu hr => ?_
  · refine Triple.bind ((bindValue_triple _ t).mono (fun _ _ h => h) ?_) ?_
    · rintro _ _ rfl
      exact ReadOnly.refl _
    · rintro _ t rfl
      refine ⟨⟨readOnly_see t i _, fun x hx => ?_⟩⟩
      obtain ⟨hx, hxid⟩ := Table.find?_eq_some.mp hx
      exact Tracked.holds_see (t := t.instances) SameInstance.refl hx (List.mem_singleton.mpr hxid)
  · cases r with
    | none => exact Meets.fail _ _
    | some r =>
      refine Meets.bind (assertClientIdAccess_meets m r.clientId u) ?_
      rintro _ v ⟨hv, hscope⟩
      exact Meets.pure ⟨hu.trans hv, (hr r rfl).passes SameInstance.trans hv.instances, hscope⟩

/-- A CPU reading the update sets is one the request gives. -/
theorem changed_cpuUsage {body : InstanceStatusUpdate} {copy : Instance} {updatedAt : ℤ} {cpu : ℚ}
    (h : changed copy.cpuUsage (body.apply copy updatedAt).cpuUsage = some cpu) :
    0 ≤ cpu ∧ cpu ≤ 100 := by
  unfold changed at h
  split at h
  · cases h
  · next hne =>
    obtain rfl := Option.some.inj h
    exact (body.apply_cpuUsage_range copy updatedAt).resolve_left (Ne.symm hne)

theorem updateStatus_meets (hm : m ∈ s.members) (hid : m.id = subs i) (instanceId : ℤ)
    (body : InstanceStatusUpdate) :
    Meets (discipline env subs) i (Answers subs i) (Live.updateStatus env i m instanceId body)
      s := by
  refine Meets.bind (ownInstance_meets m instanceId s) ?_
  rintro r u ⟨hu, hr⟩
  refine Meets.ite (fun _ => Meets.pure ⟨m, hu.member hm, hid, .inr hr.scope⟩) fun _ => ?_
  refine reads_bind (fun t _ _ => utcnow_readOnly env t) fun now v hv _ => ?_
  refine meets_bind (P := fun _ _ => True) (fun t ht hs => ?_) fun _ w hw _ => ?_
  · have hrt : Checked m i t r := hr.evolves (hv.trans ht)
    refine Triple.get_bind ?_
    cases hfind : t.instances.table.find? r.id with
    | none => exact Triple.raise (.inl (ReadOnly.refl t))
    | some row =>
      obtain ⟨hrow, hrowid⟩ := Table.find?_eq_some.mp hfind
      have htouch : MayTouch m i t row.id := by
        rw [show row.id = r.id from hrowid]
        exact hrt.mayTouch
      -- a column the update leaves out keeps what the row has by now
      have hcpu (new : ℤ) :
          let cpu := (changed r.cpuUsage (body.apply r new).cpuUsage).getD row.cpuUsage
          0 ≤ cpu ∧ cpu ≤ 100 := by
        cases hchanged : changed r.cpuUsage (body.apply r new).cpuUsage with
        | none => exact hs.instance_cpu row hrow
        | some cpu => exact changed_cpuUsage hchanged
      exact ⟨⟨.inr ⟨m, (hv.trans ht).member (hu.member hm), hid,
        .updateInstance row _ hrow _ rfl ⟨rfl, rfl, rfl, rfl, rfl, rfl⟩ (hcpu _) htouch⟩, trivial⟩⟩
  · exact refreshInstance_meets (hw.member (hv.member (hu.member hm))) hid
      (hr.evolves (hv.trans hw))

theorem deleteInstance_meets (hm : m ∈ s.members) (hid : m.id = subs i) (instanceId : ℤ) :
    Meets (discipline env subs) i (Answers subs i) (Live.deleteInstance i m instanceId) s := by
  refine Meets.bind (ownInstance_meets m instanceId s) ?_
  rintro r u ⟨hu, hr⟩
  refine Meets.ite (fun _ => Meets.fail _ _) fun _ => ?_
  refine reads_bind (P := fun ids t => ∀ id ∈ ids, ∃ a, a.id = id ∧ a.instanceId = r.id ∧
    Tracked.Holds SameAlert t.alerts i a) (fun t _ _ => ?_) fun ids v hv hids => ?_
  · refine ⟨⟨{ ReadOnly.refl t with alerts := .see SameAlert.refl _ i _ }, fun id hid => ?_⟩⟩
    obtain ⟨a, ha, rfl⟩ := List.mem_map.mp hid
    obtain ⟨hvisible, hai⟩ := List.mem_filter.mp ha
    exact ⟨a, rfl, beq_iff_eq.mp hai, Tracked.holds_see (t := t.alerts) SameAlert.refl
      (Table.mem_delete.mp hvisible).1 hid⟩
  · refine meets_bind (P := fun _ _ => True) (fun t ht _ => ?_) fun _ w hw _ =>
      Meets.pure ⟨m, hw.member (hv.member (hu.member hm)), hid, trivial⟩
    refine ⟨⟨.inr ⟨m, (hv.trans ht).member (hu.member hm), hid, ?_⟩, trivial⟩⟩
    refine .deleteInstance r.id _ (hr.evolves (hv.trans ht)).mayTouch fun a ha hp => ?_
    -- the row under a loaded alert's id is that alert, or the id was given away
    obtain ⟨a₀, ha₀, hai, hholds⟩ :=
      hids a.id (List.contains_iff_mem.mp (Bool.and_eq_true_iff.mp hp).1)
    have hheld : Tracked.Holds SameAlert t.alerts i a₀ :=
      hholds.passes SameAlert.trans ht.alerts
    obtain hstale | hsame := hheld.row ha ha₀.symm
    · exact .inl (by rwa [← ha₀])
    · exact .inr (hsame.instanceId.trans hai)

-- ---------------------------------------------------------------------------
-- Scans
-- ---------------------------------------------------------------------------

omit [DecidableEq ι] in
theorem mem_next_items {v : Walk} {page size : ℕ} {batch : List Instance} {recorded : Bool}
    {r : Instance} (h : r ∈ (v.next page size batch recorded).items) : r ∈ v.items ∨ r ∈ batch := by
  change r ∈ (v.visitAll page size batch).items at h
  unfold Walk.visitAll at h
  induction batch generalizing v with
  | nil => exact .inl h
  | cons x batch ih =>
    obtain h | h := ih h
    · simp only [Walk.visit] at h
      split at h
      · rcases List.mem_append.mp h with h | h
        · exact .inl h
        · exact .inr (List.mem_cons.mpr (.inl (List.mem_singleton.mp h)))
      · exact .inl h
    · exact .inr (.tail _ h)

theorem selectBatch_readOnly (env : Env) (i : ι) {job : ScanJob}
    (hjob : job.clientIds = accessibleClientIds m) (lastId : ℤ) (s : LiveDatabase ι) :
    Triple (Statement.selectBatch env i job lastId) s
      (fun batch t => ReadOnly s t ∧ ∀ r ∈ batch, Checked m i t r) (fun _ t => ReadOnly s t) := by
  refine ⟨⟨readOnly_see s i _, fun r hr => ?_⟩⟩
  obtain ⟨hmem, hquery⟩ := List.mem_filter.mp (List.mem_of_mem_take hr)
  refine ⟨Tracked.holds_see (t := s.instances) SameInstance.refl hmem (List.mem_map_of_mem hr), ?_⟩
  have hscope := (Bool.and_eq_true_iff.mp (Bool.and_eq_true_iff.mp hquery).1).2
  rwa [hjob] at hscope

theorem recordAlerts_meets (hm : m ∈ s.members) (hid : m.id = subs i) (job : ScanJob)
    {batch : List Instance} (hbatch : ∀ r ∈ batch, Checked m i s r) :
    Meets (discipline env subs) i (fun _ t => Evolves s t) (Live.recordAlerts env i job batch)
      s := by
  refine reads_bind (P := fun _ _ => True) (fun t _ _ => ⟨⟨ReadOnly.refl t, trivial⟩⟩)
    fun existing u hu _ => ?_
  refine Meets.ite (fun _ => Meets.pure hu) fun _ => ?_
  refine meets_bind (P := fun _ _ => True) (fun t ht _ => ?_) fun _ v hv _ =>
    Meets.pure (hu.trans hv)
  refine ⟨⟨.inr ⟨m, ht.member (hu.member hm), hid, .insertAlerts _ _ _ fun n hn => ?_⟩, trivial⟩⟩
  obtain ⟨r, hr, rfl⟩ := List.mem_map.mp hn
  exact ((hbatch r (List.mem_filter.mp hr).1).evolves (hu.trans ht)).mayTouch

theorem commitIfRecorded_meets (recorded : Bool) (s : LiveDatabase ι) :
    Meets (discipline env subs) i (fun _ t => Evolves s t) (Live.commitIfRecorded i recorded)
      s := by
  refine Meets.ite (fun _ => Meets.atomic fun t ht _ => ?_) fun _ => Meets.pure (Evolves.refl s)
  exact ⟨⟨.inl { ReadOnly.refl t with }, ht.trans { Evolves.refl t with }⟩⟩

theorem scanLoop_meets (hm : m ∈ s.members) (hid : m.id = subs i) {job : ScanJob}
    (hjob : job.clientIds = accessibleClientIds m) (page size turns : ℕ) {v : Walk}
    (hv : ∀ r ∈ v.items, InScope m s r.clientId) :
    Meets (discipline env subs) i
      (fun v t => Evolves s t ∧ ∀ r ∈ v.items, InScope m t r.clientId)
      (Live.scanLoop env i job page size turns v) s := by
  induction turns generalizing s v with
  | zero => exact Meets.fail _ _
  | succ turns ih =>
    refine reads_bind (fun t _ _ => selectBatch_readOnly env i hjob v.lastId t)
      fun batch u hu hb => ?_
    refine Meets.ite (fun _ => Meets.pure ⟨hu, fun r hr => (hv r hr).evolves hu⟩) fun _ => ?_
    refine Meets.bind (recordAlerts_meets (hu.member hm) hid job hb) fun recorded t ht => ?_
    have hst : Evolves s t := hu.trans ht
    have hnext : ∀ r ∈ (v.next page size batch recorded).items, InScope m t r.clientId := by
      intro r hr
      obtain hr | hr := mem_next_items hr
      · exact (hv r hr).evolves hst
      · exact (hb r hr).scope.evolves ht
    refine Meets.ite (fun _ => Meets.pure ⟨hst, hnext⟩) fun _ => ?_
    exact (ih (hst.member hm) hnext).mono fun v u hu => ⟨hst.trans hu.1, hu.2⟩

theorem scan_meets (hm : m ∈ s.members) (hid : m.id = subs i) {job : ScanJob}
    (hjob : job.clientIds = accessibleClientIds m) (turns : ℕ) (page : PageParam)
    (size : SizeParam) :
    Meets (discipline env subs) i (Answers subs i) (Live.scan env i turns job page size) s := by
  refine Meets.bind (scanLoop_meets hm hid hjob page.val size.val turns (by simp)) ?_
  rintro v t ⟨ht, hv⟩
  refine Meets.bind (commitIfRecorded_meets v.recorded t) fun _ u hu => Meets.pure ?_
  exact ⟨m, hu.member (ht.member hm), hid, fun r hr => (hv r hr).evolves hu⟩

-- ---------------------------------------------------------------------------
-- One alert
-- ---------------------------------------------------------------------------

/-- The request has loaded the alert with its instance. -/
structure LoadedAlert (i : ι) (s : LiveDatabase ι) (a : Alert) (r : Instance) : Prop where
  alert : Tracked.Holds SameAlert s.alerts i a
  inst : Tracked.Holds SameInstance s.instances i r
  id : r.id = a.instanceId
  resolved : a.isResolved = a.resolvedAt.isSome

theorem selectAlert_readOnly (env : Env) (i : ι) (id : ℤ) (hs : Sound env s) :
    Triple (Statement.selectAlert i id) s
      (fun o t => ReadOnly s t ∧ ∀ a r, o = some (a, some r) → LoadedAlert i t a r)
      (fun _ t => ReadOnly s t) := by
  refine Triple.bind ((bindValue_triple _ s).mono (fun _ _ h => h) ?_) ?_
  · rintro _ _ rfl
    exact ReadOnly.refl _
  · rintro _ s rfl
    refine Triple.get_bind ?_
    cases hfind : (s.visible i).find? id with
    | none => exact Triple.pure ⟨ReadOnly.refl s, fun a r h => by simp at h⟩
    | some a =>
      obtain ⟨hvisible, -⟩ := Table.find?_eq_some.mp hfind
      have ha : a ∈ s.alerts.table := (Table.mem_delete.mp hvisible).1
      refine ⟨⟨{ readOnly_see s i [a.instanceId] with
        alerts := .see SameAlert.refl _ i _ }, fun a' r h => ?_⟩⟩
      obtain ⟨rfl, hr⟩ := Prod.mk.inj (Option.some.inj h)
      obtain ⟨hr, hrid⟩ := Table.find?_eq_some.mp hr
      exact {
        alert := Tracked.holds_see (t := s.alerts) SameAlert.refl ha (List.mem_singleton.mpr rfl)
        inst := Tracked.holds_see (t := s.instances) SameInstance.refl hr
          (List.mem_singleton.mpr hrid)
        id := hrid
        resolved := hs.alert_resolved a ha }

theorem resolveAlert_meets (hm : m ∈ s.members) (hid : m.id = subs i) (alertId : ℤ) :
    Meets (discipline env subs) i (Answers subs i) (Live.resolveAlert env i m alertId) s := by
  refine reads_bind (fun t _ hs => selectAlert_readOnly env i alertId hs) fun o u hu ho => ?_
  match o with
  | none => exact Meets.fail _ _
  | some (a, none) => exact Meets.fail _ _
  | some (a, some r) =>
    have hload := ho a r rfl
    refine Meets.bind (assertClientIdAccess_meets m r.clientId u) ?_
    rintro _ v ⟨hv, hscope⟩
    have hm := hv.member (hu.member hm)
    have hr : Checked m i v r := ⟨hload.inst.passes SameInstance.trans hv.instances, hscope⟩
    have ha : Tracked.Holds SameAlert v.alerts i a := hload.alert.passes SameAlert.trans hv.alerts
    refine Meets.ite (fun _ => Meets.pure ⟨m, hm, hid, .inr ⟨r, hr, hload.id⟩⟩) fun hun => ?_
    have hnone : a.resolvedAt = none := by
      have hresolved := hload.resolved
      rw [Bool.not_eq_true] at hun
      rw [hun] at hresolved
      exact Option.isSome_eq_false_iff.mp hresolved.symm |> Option.isNone_iff_eq_none.mp
    refine reads_bind (fun t _ _ => utcnow_readOnly env t) fun now w hw _ => ?_
    refine meets_bind (P := fun _ _ => True) (fun t ht hs => ?_) fun _ x hx _ => ?_
    · have hwt := hw.trans ht
      refine Triple.get_bind ?_
      cases hfind : (t.visible i).find? a.id with
      | none => exact Triple.raise (.inl (ReadOnly.refl t))
      | some row =>
        obtain ⟨hvisible, hrowid⟩ := Table.find?_eq_some.mp hfind
        have hrow : row ∈ t.alerts.table := (Table.mem_delete.mp hvisible).1
        have htouch : t.alerts.Stale i row.id ∨ MayTouch m i t row.instanceId := by
          have hheld : Tracked.Holds SameAlert t.alerts i a :=
            ha.passes SameAlert.trans hwt.alerts
          rw [show row.id = a.id from hrowid]
          refine (hheld.row hrow hrowid).imp id fun hsame => ?_
          rw [hsame.instanceId, ← hload.id]
          exact (hr.evolves hwt).mayTouch
        exact ⟨⟨.inr ⟨m, hwt.member hm, hid, .updateAlert row _ hrow rfl
          ⟨rfl, rfl, rfl, rfl, fun _ => rfl⟩ (by simp [AlertWrite.exec, hnone, changed]) htouch⟩,
          trivial⟩⟩
    · refine reads_bind (fun t _ _ => refresh_readOnly _ _ t) fun a' y hy ha' => Meets.pure ?_
      have hvy := hw.trans (hx.trans hy)
      have hheld : Tracked.Holds SameAlert y.alerts i a := ha.passes SameAlert.trans hvy.alerts
      have hid' : a'.id = a.id := ha'.2
      refine ⟨m, hvy.member hm, hid, ?_⟩
      obtain hstale | hsame := hheld.row (Table.mem_delete.mp ha'.1).1 hid'
      · exact .inl (by rwa [hid'])
      · exact .inr ⟨r, hr.evolves hvy, hload.id.trans hsame.instanceId.symm⟩

-- ---------------------------------------------------------------------------
-- Any writing request
-- ---------------------------------------------------------------------------

theorem answer_meets (env : Env) (subs : ι → ℤ) (i : ι) (turns : ℕ) (req : WriteRequest)
    (s : LiveDatabase ι) :
    Meets (discipline env subs) i (Answers subs i) (Live.answer env i turns (subs i) req) s := by
  have hcaller : Meets (discipline env subs) i
      (fun m t => m ∈ t.members ∧ m.id = subs i) (Live.getCurrentMember (subs i)) s := by
    refine reads_bind (fun t _ _ => selectMember_readOnly _ t) fun r u _ hr => ?_
    cases r with
    | none => exact Meets.fail _ _
    | some m => exact Meets.pure (hr m rfl)
  refine Meets.bind hcaller ?_
  rintro m t ⟨hm, hid⟩
  cases req with
  | createInstance body => exact createInstance_meets hm hid body
  | updateStatus instanceId body => exact updateStatus_meets hm hid instanceId body
  | deleteInstance instanceId => exact deleteInstance_meets hm hid instanceId
  | warnings page size => exact scan_meets hm hid rfl turns page size
  | errors page size => exact scan_meets hm hid rfl turns page size
  | longStopped page size =>
    exact reads_bind (fun t _ _ => utcnow_readOnly env t) fun now u hu _ =>
      scan_meets (hu.member hm) hid rfl turns page size
  | resolveAlert alertId => exact resolveAlert_meets hm hid alertId
  | createClient body => exact createClient_meets hm hid body

end

end CloudMonitor
