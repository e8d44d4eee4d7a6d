import CloudMonitor.Concurrent.Alone
import CloudMonitor.Concurrent.Guarantees
import CloudMonitor.Costs

/-!
# Tenants, with requests in flight

Any number of writing requests start on a database some run has left and are
interleaved statement by statement; one that is not interrupted is the
endpoint of the API. What the rows guarantee one request at a time survives
the interleaving. So does the separation of the tenants, up to one thing:
SQLite gives the id of the last row to the next one once that row is deleted,
and a request that has checked the one writes to the other.
-/

namespace CloudMonitor

open Fallible Program LiveDatabase

-- ---------------------------------------------------------------------------
-- Where the requests start
-- ---------------------------------------------------------------------------

section
variable {env : Env} {w w' : World} {past : List World}

theorem Effect.instance_cpu (h : Effect env ids w w')
    (hcpu : ∀ i ∈ w.db.instances, 0 ≤ i.cpuUsage ∧ i.cpuUsage ≤ 100) :
    ∀ i ∈ w'.db.instances, 0 ≤ i.cpuUsage ∧ i.cpuUsage ≤ 100 := by
  cases h with
  | idle | createClient | scan | resolveAlert => exact hcpu
  | createInstance i fresh _ _ _ _ hi => exact Table.forall_mem_insert fresh hi hcpu
  | updateStatus i hi data =>
    refine Table.forall_mem_update ?_ hcpu
    obtain hsame | hrange := data.apply_cpuUsage_range i (env.clock _)
    · rw [hsame]
      exact hcpu i hi
    · exact hrange
  | deleteInstance => exact Table.forall_mem_delete hcpu

theorem Run.instance_cpu (h : Run env w w' past)
    (hcpu : ∀ i ∈ w.db.instances, 0 ≤ i.cpuUsage ∧ i.cpuUsage ≤ 100) :
    ∀ i ∈ w'.db.instances, 0 ≤ i.cpuUsage ∧ i.cpuUsage ≤ 100 := by
  induction h with
  | start => exact hcpu
  | step _ hstep ih => exact hstep.effect.instance_cpu ih

theorem Reachable.sound {ι : Type} (h : Reachable env w) :
    Sound env (start w : LiveDatabase ι) where
  client_manager := h.wellFormed.client_manager
  instance_client := h.wellFormed.instance_client
  instance_priced := h.priced
  instance_cpu := by
    obtain ⟨past, hrun⟩ := h
    exact hrun.instance_cpu (seeded_seeding env).instance_cpu
  alert_resolved a ha := Bool.eq_iff_iff.mpr (h.wellFormed.coherent a ha).1

end

variable {ι : Type} [DecidableEq ι]

/-- The requests before their first statement. -/
def inFlight (env : Env) (turns : ι → ℕ) (subs : ι → ℤ) (requests : ι → WriteRequest) (w : World) :
    Interleaving ι (LiveDatabase ι) ApiError Payload where
  shared := start w
  program i := Live.answer env i (turns i) (subs i) (requests i)

-- Two managers and an id that is given to a second instance. `manager2` starts
-- to update instance 15, the last one, and in between stops and deletes it;
-- `manager1` creates one, and SQLite takes 15 again.

def reusedId : Fin 4 → WriteRequest
  | 0 => .updateStatus 15 (InstanceRow.statusOnly .error)
  | 1 => .updateStatus 15 (InstanceRow.statusOnly .stopped)
  | 2 => .deleteInstance 15
  | 3 => .createInstance {
      instanceName := "vinasoft-web-02", region := "ap-east-1", instanceType := .small
      cpuUsage := 10, clientId := vinaSoft.id, instanceName_length := by decide
      region_length := by decide, cpuUsage_range := by decide +kernel }

def reusedIdCaller : Fin 4 → ℤ
  | 3 => manager1.id
  | _ => manager2.id

def untilReused : List (Fin 4) := [0, 0, 0, 0, 1, 1, 1, 1, 1, 1, 2, 2, 2, 2, 2, 3, 3, 3, 3, 3]

def afterReuse : Interleaving (Fin 4) (LiveDatabase (Fin 4)) ApiError Payload :=
  play Interleaving.step
    (inFlight (.every 1) (fun _ => 0) reusedIdCaller reusedId (seeded (.every 1))) untilReused

-- ---------------------------------------------------------------------------
-- One request, and all of them
-- ---------------------------------------------------------------------------

/-- Scheduled on its own a request is the endpoint of the API: it answers the
same and leaves the same committed rows. -/
theorem inFlight_alone (env : Env) (turns : ι → ℕ) (subs : ι → ℤ) (requests : ι → WriteRequest)
    (w : World) (i : ι) (hturns : w.db.instances.rows.length < turns i) :
    ∃ n, let p := play Interleaving.step (inFlight env turns subs requests w) (List.replicate n i)
      p.program i = .ofExcept (serve env (subs i) (.ofMember (requests i).request) w).1 ∧
        p.shared.committed = (serve env (subs i) (.ofMember (requests i).request) w).2.db ∧
        p.shared.tick = (serve env (subs i) (.ofMember (requests i).request) w).2.tick := by
  obtain ⟨hreply, hstate⟩ := answer_alone env i (turns i) (subs i) (requests i) w hturns
  obtain ⟨n, hshared, hprogram⟩ := Interleaving.play_alone
    (o := inFlight env turns subs requests w) (i := i) _ rfl
  refine ⟨n, hprogram.trans (congrArg Program.ofExcept hreply), ?_, ?_⟩
  · rw [hshared]
    exact hstate.committed_eq
  · rw [hshared]
    exact (congrArg Session.tick hstate.session).symm

theorem inFlight_alone_stopped :
    ∃ n,
      let p := play Interleaving.step
        (inFlight (.every 1) (fun _ => 16) reusedIdCaller reusedId (seeded (.every 1)))
        (List.replicate n 1)
      let served := serve (.every 1) (reusedIdCaller 1) (.ofMember (reusedId 1).request)
        (seeded (.every 1))
      p.program 1 = .ofExcept served.1 ∧ p.shared.committed = served.2.db ∧
        p.shared.tick = served.2.tick :=
  inFlight_alone (.every 1) (fun _ => 16) reusedIdCaller reusedId (seeded (.every 1)) 1
    (by decide +kernel)

theorem inFlight_sound (turns : ι → ℕ) (subs : ι → ℤ) (requests : ι → WriteRequest)
    (h : Reachable env w) :
    Interleaving.Sound (discipline env subs) (Answers subs)
      (inFlight env turns subs requests w) where
  inv := h.sound
  meets i := answer_meets env subs i (turns i) (requests i) _

/-- In every interleaving the rows stay sound, and from any state to a later
one clients stay as they are, and an instance or an alert that is not deleted
stays the same one. -/
theorem rows_in_flight (env : Env) (turns : ι → ℕ) (subs : ι → ℤ) (requests : ι → WriteRequest)
    (w : World) (h : Reachable env w) (earlier later : List ι) :
    let o := play Interleaving.step (inFlight env turns subs requests w) earlier
    let p := play Interleaving.step o later
    Sound env p.shared ∧ Evolves o.shared p.shared := by
  have ho := (inFlight_sound turns subs requests h).play answers_stable earlier
  exact ⟨(ho.play answers_stable later).inv, ho.rely answers_stable later⟩

theorem rows_in_flight_reusedId :
    Sound (.every 1) (play Interleaving.step afterReuse [0, 0]).shared ∧
      Evolves afterReuse.shared (play Interleaving.step afterReuse [0, 0]).shared :=
  rows_in_flight (.every 1) (fun _ => 0) reusedIdCaller reusedId _ ⟨_, .start⟩ untilReused [0, 0]

-- ---------------------------------------------------------------------------
-- What one statement changes
-- ---------------------------------------------------------------------------

end CloudMonitor
