import CloudMonitor.History

/-!
# Long-stopped detection

The scan compares `updatedAt` with a bound, and a request that only reports a
new CPU reading moves `updatedAt` too. So what the endpoint lists is the
stopped instances whose status and reading have both been held.
-/

namespace CloudMonitor

open Fallible

/-- `GET /api/monitor/long-stopped` has the instance on some page. -/
def ListsLongStopped (env : Env) (m : Member) (w : World) (size : SizeParam) (i : Instance) :
    Prop :=
  ∃ page p, ((handle env m (.longStopped page size)).run w.session).1 = .ok (.instances p) ∧
    i ∈ p.items

theorem listsLongStopped_iff (env : Env) (m : Member) (w : World) (size : SizeParam)
    (i : Instance) :
    ListsLongStopped env m w size i ↔
      i ∈ scanMatches (longStoppedJob env (accessibleClientIds m) (env.clock w.tick)) w.db := by
  have hrun (page : PageParam) : ((handle env m (.longStopped page size)).run w.session).1 =
      .ok (.instances (pageResponse (pageOf (scanMatches (longStoppedJob env (accessibleClientIds m)
        (env.clock w.tick)) w.db) page.val size.val) page size)) := by
    simp only [handle, MonitorController.longStopped, run_bind, checkLongStopped_run, run_pure,
      World.session]
  constructor
  · rintro ⟨page, p, hp, hi⟩
    rw [hrun] at hp
    cases hp
    exact mem_window hi
  · intro hi
    obtain ⟨page, hpage⟩ := exists_page hi size
    exact ⟨page, _, hrun page, hpage⟩

/-- Along a run from a database without instances, the endpoint lists exactly
the caller's instances that are `STOPPED` and have had both this status and
their CPU reading for at least `LONG_STOPPED_HOURS`. -/
theorem longStopped_lists_held (env : Env) (start w : World) (past : List World)
    (hrun : Run env start w past) (hstart : start.db.instances = ∅) (m : Member) (size : SizeParam)
    (i : Instance) :
    ListsLongStopped env m w size i ↔
      i ∈ w.db.instances ∧ inScope (accessibleClientIds m) w.db i.clientId = true ∧
        i.status = .stopped ∧
      heldSince env (env.clock w.tick - hours env.settings.longStoppedHours)
        (HasReading i) w past := by
  have hnew : ∀ j, j ∉ start.db.instances := by simp [hstart]
  have hpos := hrun.instance_pos fun j hj => absurd hj (hnew j)
  rw [listsLongStopped_iff]
  simp only [scanMatches, matchesFrom, ScanJob.query, longStoppedJob, longStoppedBound,
    List.mem_filter,
    Bool.and_eq_true, beq_iff_eq, decide_eq_true_eq]
  constructor
  · rintro ⟨hi, ⟨⟨hstatus, hle⟩, hscope⟩, -⟩
    exact ⟨hi, hscope, hstatus, (hrun.heldSince_iff hi (hnew i)).mpr (of_decide_eq_true hle)⟩
  · rintro ⟨hi, hscope, hstatus, hheld⟩
    exact ⟨hi, ⟨⟨hstatus, decide_eq_true ((hrun.heldSince_iff hi (hnew i)).mp hheld)⟩, hscope⟩,
      hpos i hi⟩

theorem longStopped_lists_held_reading :
    ListsLongStopped (.every 86400000000) ⟨1, "", "", "", .admin⟩ { stoppedReading with tick := 4 }
      ⟨10, by decide, by decide⟩ batchInstance := by
  have hrun : Run (.every 86400000000) oneClient { stoppedReading with tick := 4 }
      [stoppedReading, stoppedOnce, oneClient] :=
        .step stoppedReading_run (.wait 4 (by decide +kernel))
  have hmem : batchInstance ∈ stoppedReading.db.instances := by decide +kernel
  refine (longStopped_lists_held _ _ _ _ hrun rfl _ _ _).mpr ⟨hmem, rfl, rfl, ?_⟩
  refine ⟨⟨_, hmem, rfl, rfl, rfl⟩, fun _ => ⟨⟨_, hmem, rfl, rfl, rfl⟩, fun hlate => ?_⟩⟩
  exact absurd hlate (by decide +kernel)

/-- The status alone is not enough: this instance has been `STOPPED` for the
whole 48 hours, and is on no page. -/
theorem longStopped_misses_reading :
    Run (.every 86400000000) oneClient stoppedReading [stoppedOnce, oneClient] ∧
    batchInstance ∈ stoppedReading.db.instances ∧ batchInstance.status = .stopped ∧
    heldSince (.every 86400000000) ((Env.every 86400000000).clock stoppedReading.tick - hours 48)
      (fun v => ∃ r ∈ v.db.instances, r.id = batchInstance.id ∧ r.status = .stopped)
      stoppedReading [stoppedOnce, oneClient] ∧
    ∀ size, ¬ListsLongStopped (.every 86400000000) ⟨1, "", "", "", .admin⟩ stoppedReading size
      batchInstance := by
  refine ⟨stoppedReading_run, by decide +kernel, rfl, ?_, fun size => ?_⟩
  · refine ⟨⟨batchInstance, by decide +kernel, rfl, rfl⟩, fun _ => ⟨?_, fun hlate => ?_⟩⟩
    · exact ⟨{ batchInstance with cpuUsage := 0, updatedAt := 86400000000 }, by decide +kernel, rfl,
        rfl⟩
    · exact absurd hlate (by decide +kernel)
  · rw [listsLongStopped_iff]
    decide +kernel

end CloudMonitor
