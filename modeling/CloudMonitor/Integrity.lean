import CloudMonitor.Runs
import Mathlib.Logic.Relation

/-!
# Integrity of the alert table

`WellFormed` is what every reachable database satisfies: references resolve,
an instance has at most one unresolved alert of a type, and an alert's
resolution is recorded once, after its detection.
-/

namespace CloudMonitor

open Fallible

def OneUnresolved (alerts : Table Alert) : Prop :=
  ∀ a ∈ alerts, ∀ b ∈ alerts, a.instanceId = b.instanceId → a.alertType = b.alertType →
    a.isResolved = false → b.isResolved = false → a = b

instance (alerts : Table Alert) : Decidable (OneUnresolved alerts) :=
  inferInstanceAs (Decidable (∀ a ∈ alerts.rows, ∀ b ∈ alerts.rows, _ → _ → _ → _ → _))

def Alert.Coherent (a : Alert) : Prop :=
  (a.isResolved = true ↔ a.resolvedAt.isSome = true) ∧ ∀ t ∈ a.resolvedAt, a.detectedAt ≤ t

structure WellFormed (env : Env) (w : World) : Prop where
  alert_instance : ∀ a ∈ w.db.alerts, a.instanceId ∈ w.db.instances.ids
  instance_client : ∀ i ∈ w.db.instances, i.clientId ∈ w.db.clients.ids
  instance_pos : ∀ i ∈ w.db.instances, 0 < i.id
  client_manager : ∀ c ∈ w.db.clients, ∃ m ∈ w.db.members, m.id = c.managerId ∧
    m.role = .clientManager
  one_unresolved : OneUnresolved w.db.alerts
  coherent : ∀ a ∈ w.db.alerts, a.Coherent
  detected : ∀ a ∈ w.db.alerts, ∀ n, w.tick ≤ n → a.detectedAt ≤ env.clock n

-- ---------------------------------------------------------------------------
-- Adding alerts
-- ---------------------------------------------------------------------------

theorem OneUnresolved.addAlerts {as : List NewAlert} {t : Table Alert} (h : OneUnresolved t)
    (hnew : ∀ a ∈ as, hasUnresolved t a.alertType a.instanceId = false)
    (hd : as.Pairwise (fun a b => a.instanceId ≠ b.instanceId)) :
    OneUnresolved (addAlerts env tick as t) := by
  induction as generalizing tick t with
  | nil => exact h
  | cons a as ih =>
    rw [List.pairwise_cons] at hd
    have hfree : ∀ x ∈ t, x.instanceId = a.instanceId → x.alertType = a.alertType →
        x.isResolved ≠ false := by
      intro x hx hid hty hun
      have := hnew a (by simp)
      rw [← Bool.not_eq_true, hasUnresolved_iff] at this
      exact this ⟨x, hx, hid, hty, hun⟩
    refine ih ?_ ?_ hd.2
    · intro x hx y hy hid hty hxun hyun
      rw [Table.mem_insertNew] at hx hy
      rcases hx with rfl | hx <;> rcases hy with rfl | hy
      · rfl
      · exact absurd hyun (hfree y hy hid.symm hty.symm)
      · exact absurd hxun (hfree x hx hid hty)
      · exact h x hx y hy hid hty hxun hyun
    · intro b hb
      have hother : ∀ x ∈ [a], x.instanceId ≠ b.instanceId := by simpa using hd.1 b hb
      have hsame : hasUnresolved (CloudMonitor.addAlerts env tick [a] t) b.alertType b.instanceId =
          hasUnresolved t b.alertType b.instanceId :=
        hasUnresolved_addAlerts fun x hx _ => hother x hx
      exact hsame.trans (hnew b (by simp [hb]))

/-- Insertions keep the alerts unique exactly when they are for instances
without one. -/
theorem oneUnresolved_addAlerts_iff {as : List NewAlert} {t : Table Alert}
    (hd : as.Pairwise (fun a b => a.instanceId ≠ b.instanceId)) :
    OneUnresolved (addAlerts env tick as t) ↔
      OneUnresolved t ∧ ∀ a ∈ as, hasUnresolved t a.alertType a.instanceId = false := by
  constructor
  · intro h
    refine ⟨fun a ha b hb => h a (mem_addAlerts_of_mem ha) b (mem_addAlerts_of_mem hb), ?_⟩
    intro a ha
    by_contra hun
    obtain ⟨x, hx, hid, hty, hres⟩ := hasUnresolved_iff.mp (Bool.eq_true_of_not_eq_false hun)
    obtain ⟨id, k, hmem, hfresh⟩ := exists_mem_addAlerts env tick t ha
    obtain rfl := h x (mem_addAlerts_of_mem hx) _ hmem hid hty hres rfl
    exact hfresh (Table.mem_ids.mpr ⟨_, hx, rfl⟩)
  · rintro ⟨h, hfresh⟩
    exact h.addAlerts hfresh hd

theorem OneUnresolved.mono {t u : Table Alert} (h : OneUnresolved t) (hsub : ∀ a ∈ u, a ∈ t) :
    OneUnresolved u :=
  fun a ha b hb => h a (hsub a ha) b (hsub b hb)

theorem OneUnresolved.resolve {t : Table Alert} (h : OneUnresolved t) (a : Alert) (now : ℤ) :
    OneUnresolved (t.update (a.resolve now)) := by
  have hold : ∀ x ∈ t.update (a.resolve now), x.isResolved = false → x ∈ t := by
    refine Table.forall_mem_update (fun hx => ?_) fun x hx _ => hx
    simp [Alert.resolve] at hx
  exact fun x hx y hy hid hty hxun hyun =>
    h x (hold x hx hxun) y (hold y hy hyun) hid hty hxun hyun

theorem missingAlerts_pairwise (job : ScanJob) (alerts : Table Alert) {xs : List Instance}
    (h : xs.Pairwise (fun a b => a.id < b.id)) :
    (missingAlerts job alerts xs).Pairwise (fun a b => a.instanceId ≠ b.instanceId) := by
  unfold missingAlerts
  exact List.pairwise_map.mpr ((h.filter _).imp Int.ne_of_lt)

theorem OneUnresolved.scan {w : World} (h : OneUnresolved w.db.alerts) (job : ScanJob) :
    OneUnresolved (CloudMonitor.addAlerts env k
      (missingAlerts job w.db.alerts (scanMatches job w.db))
      w.db.alerts) := by
  refine h.addAlerts (fun a ha => ?_) (missingAlerts_pairwise job _ (matchesFrom_sorted job w.db 0))
  obtain ⟨i, -, hid, hun, hty⟩ := missingAlerts_instanceId ha
  rw [hid, hty]
  exact hun

theorem mem_scan {job : ScanJob} {db : Database} {a : Alert}
    (h : a ∈ addAlerts env k (missingAlerts job db.alerts (scanMatches job db)) db.alerts) :
    a ∈ db.alerts ∨ (∃ i ∈ db.instances, job.query db i = true ∧ i.id = a.instanceId) ∧
      a.isResolved = false ∧ a.resolvedAt = none ∧
      ∃ n, n < k + (missingAlerts job db.alerts (scanMatches job db)).length ∧
        a.detectedAt = env.clock n := by
  rcases mem_addAlerts h with h | ⟨new, hnew, n, -, hn, hrow⟩
  · exact .inl h
  · obtain ⟨i, hi, hid, -, -⟩ := missingAlerts_instanceId hnew
    simp only [scanMatches, matchesFrom, List.mem_filter, Bool.and_eq_true] at hi
    rw [hrow]
    exact .inr ⟨⟨i, hi.1, hi.2.1, hid.symm⟩, rfl, rfl, n, hn, rfl⟩

-- ---------------------------------------------------------------------------
-- One effect
-- ---------------------------------------------------------------------------

theorem Effect.wellFormed (h : Effect env ids w w') (wf : WellFormed env w) :
    WellFormed env w' := by
  have hdetected : ∀ a ∈ w.db.alerts, ∀ n, w'.tick ≤ n → a.detectedAt ≤ env.clock n :=
    fun a ha n hn => wf.detected a ha n (h.tick_le.trans hn)
  cases h with
  | idle n hn => exact { wf with detected := hdetected }
  | createClient c fresh _ hmanager _ _ =>
    have hclients : ∀ id ∈ w.db.clients.ids, id ∈ (w.db.clients.insert c fresh).ids :=
      fun _ hid => (Table.mem_ids_insert fresh).mpr (.inr hid)
    exact { wf with
      instance_client := fun i hi => hclients _ (wf.instance_client i hi)
      client_manager := Table.forall_mem_insert fresh hmanager wf.client_manager
      detected := hdetected }
  | createInstance i fresh hclient _ hpos _ _ _ _ =>
    have hinstances : ∀ id ∈ w.db.instances.ids, id ∈ (w.db.instances.insert i fresh).ids :=
      fun _ hid => (Table.mem_ids_insert fresh).mpr (.inr hid)
    exact { wf with
      alert_instance := fun a ha => hinstances _ (wf.alert_instance a ha)
      instance_client := Table.forall_mem_insert fresh hclient wf.instance_client
      instance_pos := Table.forall_mem_insert fresh hpos wf.instance_pos
      detected := hdetected }
  | updateStatus i hi data _ _ k hk =>
    exact { wf with
      alert_instance := fun a ha => Table.mem_ids_update.mpr (wf.alert_instance a ha)
      instance_client := Table.forall_mem_update (wf.instance_client i hi) wf.instance_client
      instance_pos := Table.forall_mem_update (wf.instance_pos i hi) wf.instance_pos
      detected := hdetected }
  | deleteInstance i hi _ hstatus =>
    -- the cascade takes the alerts whose instance goes, and no others
    have hkept : ∀ a ∈ (deleteCascade w.db i.id).alerts,
        a.instanceId ∈ (deleteCascade w.db i.id).instances.ids := by
      intro a ha
      obtain ⟨ha, hne⟩ := Table.mem_delete.mp ha
      obtain ⟨j, hj, hjd⟩ := Table.mem_ids.mp (wf.alert_instance a ha)
      refine Table.mem_ids.mpr ⟨j, Table.mem_delete.mpr ⟨hj, ?_⟩, hjd⟩
      simpa [← hjd] using hne
    exact { wf with
      alert_instance := hkept
      instance_client := Table.forall_mem_delete wf.instance_client
      instance_pos := Table.forall_mem_delete wf.instance_pos
      one_unresolved := wf.one_unresolved.mono fun a ha => (Table.mem_delete.mp ha).1
      coherent := Table.forall_mem_delete wf.coherent
      detected := Table.forall_mem_delete hdetected }
  | scan job _ k hk =>
    refine { wf with
      alert_instance := ?_
      one_unresolved := wf.one_unresolved.scan job
      coherent := ?_
      detected := ?_ }
    · intro a ha
      rcases mem_scan ha with ha | ⟨⟨i, hi, -, hid⟩, -⟩
      · exact wf.alert_instance a ha
      · exact Table.mem_ids.mpr ⟨i, hi, hid⟩
    · intro a ha
      rcases mem_scan ha with ha | ⟨-, hun, hnone, -⟩
      · exact wf.coherent a ha
      · simp [Alert.Coherent, hun, hnone]
    · intro a ha n hn
      rcases mem_scan ha with ha | ⟨-, -, -, m, hm, hstamp⟩
      · exact hdetected a ha n hn
      · rw [hstamp]
        exact env.clock_mono (hm.le.trans hn)
  | resolveAlert a ha hun _ =>
    have hcoherent : (a.resolve (env.clock w.tick)).Coherent := by
      simpa [Alert.Coherent, Alert.resolve] using wf.detected a ha w.tick le_rfl
    exact { wf with
      alert_instance := Table.forall_mem_update (wf.alert_instance a ha) wf.alert_instance
      one_unresolved := wf.one_unresolved.resolve a _
      coherent := Table.forall_mem_update hcoherent wf.coherent
      detected := Table.forall_mem_update (hdetected a ha) hdetected }

/-- An alert stays while its instance does; only an unresolved one is ever
rewritten, and then it becomes resolved. -/
theorem Effect.alert_kept (h : Effect env ids w w') (ha : a ∈ w.db.alerts)
    (hi : a.instanceId ∈ w'.db.instances.ids) :
    ∃ a' ∈ w'.db.alerts, a' = a ∨ (a.isResolved = false ∧ ∃ t, a' = a.resolve t) := by
  cases h with
  | idle | createClient | createInstance | updateStatus => exact ⟨a, ha, .inl rfl⟩
  | deleteInstance i =>
    obtain ⟨j, hj, hjd⟩ := Table.mem_ids.mp hi
    refine ⟨a, Table.mem_delete.mpr ⟨ha, ?_⟩, .inl rfl⟩
    rw [← hjd]
    exact (Table.mem_delete.mp hj).2
  | scan => exact ⟨a, mem_addAlerts_of_mem ha, .inl rfl⟩
  | resolveAlert b hb hun =>
    by_cases hid : a.id = b.id
    · obtain rfl := Table.unique ha hb hid
      exact ⟨a.resolve _, Table.mem_update.mpr (.inl ⟨rfl, Table.mem_ids.mpr ⟨a, ha, rfl⟩⟩),
        .inr ⟨hun, _, rfl⟩⟩
    · exact ⟨a, Table.mem_update.mpr (.inr ⟨ha, hid⟩), .inl rfl⟩

theorem Effect.alert_origin (h : Effect env ids w w') (wf : WellFormed env w)
    (ha : a ∈ w'.db.alerts) :
    a.instanceId ∈ w.db.instances.ids := by
  cases h with
  | idle | createClient | createInstance | updateStatus => exact wf.alert_instance a ha
  | deleteInstance => exact wf.alert_instance a (Table.mem_delete.mp ha).1
  | scan job =>
    rcases mem_scan ha with ha | ⟨⟨i, hi, -, hid⟩, -⟩
    · exact wf.alert_instance a ha
    · exact Table.mem_ids.mpr ⟨i, hi, hid⟩
  | resolveAlert b hb =>
    rcases Table.mem_update.mp ha with ⟨rfl, -⟩ | ⟨ha, -⟩
    · exact wf.alert_instance b hb
    · exact wf.alert_instance a ha

-- ---------------------------------------------------------------------------
-- Runs
-- ---------------------------------------------------------------------------

theorem Run.wellFormed (h : Run env w w' past) (wf : WellFormed env w) : WellFormed env w' := by
  induction h with
  | start => exact wf
  | step _ hstep ih => exact hstep.effect.wellFormed ih

theorem Run.alert_kept (h : Run env w w' past) (ha : a ∈ w.db.alerts)
    (hi : ∀ v ∈ w' :: past, a.instanceId ∈ v.db.instances.ids) :
    ∃ a' ∈ w'.db.alerts, a' = a ∨ (a.isResolved = false ∧ ∃ t, a' = a.resolve t) := by
  induction h with
  | start => exact ⟨a, ha, .inl rfl⟩
  | step run hstep ih =>
    obtain ⟨b, hb, hab⟩ := ih fun v hv => hi v (.tail _ hv)
    have hbi : b.instanceId = a.instanceId := by
      rcases hab with rfl | ⟨-, t, rfl⟩ <;> rfl
    obtain ⟨c, hc, hbc⟩ := hstep.effect.alert_kept hb (hbi ▸ hi _ (by simp))
    refine ⟨c, hc, ?_⟩
    rcases hab with rfl | ⟨hun, t, rfl⟩
    · exact hbc
    · rcases hbc with rfl | ⟨hun', -⟩
      · exact .inr ⟨hun, t, rfl⟩
      · simp [Alert.resolve] at hun'

theorem seeded_wellFormed (env : Env) : WellFormed env (seeded env) := by
  have h := seeded_seeding env
  have hnone : ∀ a, a ∉ (seeded env).db.alerts := by simp [h.no_alerts]
  exact {
    alert_instance := fun a ha => absurd ha (hnone a)
    instance_client := h.instance_client
    instance_pos := h.instance_pos
    client_manager := h.client_manager
    one_unresolved := fun a ha => absurd ha (hnone a)
    coherent := fun a ha => absurd ha (hnone a)
    detected := fun a ha => absurd ha (hnone a) }

theorem Reachable.wellFormed (h : Reachable env w) : WellFormed env w := by
  obtain ⟨past, hrun⟩ := h
  exact hrun.wellFormed (seeded_wellFormed env)

/-- In every reachable database the references resolve, no instance has two
unresolved alerts of a type, and alerts are coherent. From there on an alert
lives as long as its instance and never changes once resolved; an instance
that a step adds, under a new or a used id, has no alerts. -/
theorem alertTable_integrity (env : Env) (w : World) (h : Reachable env w) :
    (∀ a ∈ w.db.alerts, a.instanceId ∈ w.db.instances.ids) ∧
    (∀ i ∈ w.db.instances, i.clientId ∈ w.db.clients.ids) ∧
    OneUnresolved w.db.alerts ∧
    (∀ a ∈ w.db.alerts, a.Coherent) ∧
    (∀ a ∈ w.db.alerts, ∀ w' past, Run env w w' past →
      (∀ v ∈ w' :: past, a.instanceId ∈ v.db.instances.ids) →
        ∃ a' ∈ w'.db.alerts, a'.id = a.id ∧ (a.isResolved = true → a' = a)) ∧
    (∀ w', Step env w w' → ∀ i ∈ w'.db.instances, i.id ∉ w.db.instances.ids →
      ∀ a ∈ w'.db.alerts, a.instanceId ≠ i.id) := by
  have wf := h.wellFormed
  refine ⟨wf.alert_instance, wf.instance_client, wf.one_unresolved, wf.coherent, ?_, ?_⟩
  · intro a ha w' past hrun hi
    obtain ⟨a', ha', hfate⟩ := hrun.alert_kept ha hi
    refine ⟨a', ha', ?_, ?_⟩
    · rcases hfate with rfl | ⟨-, t, rfl⟩ <;> rfl
    · intro hres
      exact hfate.resolve_right fun hun => by simp [hres] at hun
  · intro w' hstep i _ hnew a ha hai
    exact hnew (hai ▸ hstep.effect.alert_origin wf ha)

/-- A scan of the freshly seeded database, which finds two instances in `ERROR`. -/
theorem alertTable_integrity_seeded :
    OneUnresolved (call (.every 1) (.checkErrors ⟨1, "", "", "", .admin⟩ 1 10)
      (seeded (.every 1))).db.alerts :=
  (alertTable_integrity _ _ ⟨_, .step .start (.call _)⟩).2.2.1

end CloudMonitor
