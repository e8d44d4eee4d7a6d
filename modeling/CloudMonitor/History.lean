import CloudMonitor.Integrity

/-!
# What a timestamp says about the past

A row keeps one instant, `updatedAt`. Along a run it is the instant since when
the row has been as it is, and the row's status and CPU reading have been held
from that instant on and no longer.
-/

namespace CloudMonitor

open Fallible

/-- When a world became the current one: the last reading of the clock so far. -/
def since (env : Env) (w : World) : ℤ := env.clock (w.tick - 1)

/-- The world that was current at `t`; the first one has always been there. -/
def worldAt (env : Env) (t : ℤ) (w : World) : List World → World
  | [] => w
  | v :: past => if since env w ≤ t then w else worldAt env t v past

def heldSince (env : Env) (b : ℤ) (P : World → Prop) (w : World) : List World → Prop
  | [] => P w
  | v :: past => P w ∧ (b < since env w → heldSince env b P v past)

def HasReading (i : Instance) (w : World) : Prop :=
  ∃ r ∈ w.db.instances, r.id = i.id ∧ r.status = i.status ∧ r.cpuUsage = i.cpuUsage

-- ---------------------------------------------------------------------------
-- One step
-- ---------------------------------------------------------------------------

theorem Effect.since_le (h : Effect env ids w w') : since env w ≤ since env w' :=
  env.clock_mono (Nat.sub_le_sub_right h.tick_le 1)

theorem InstanceStatusUpdate.apply_ne {data : InstanceStatusUpdate} {i : Instance} {t : ℤ}
    (h : ¬data.isNoop i) :
    ¬(i.status = (data.apply i t).status ∧ i.cpuUsage = (data.apply i t).cpuUsage) := by
  rintro ⟨hstatus, hcpu⟩
  refine h ⟨hstatus, fun cpu hnext => ?_⟩
  have hnext' : data.nextCpuUsage = some cpu := hnext
  simpa [InstanceStatusUpdate.apply, hnext'] using hcpu

/-- A row is carried over, or it is stamped with the new world's instant and
shows something the old world did not. -/
theorem Effect.instance_origin (h : Effect env ids w w') (hi : i ∈ w'.db.instances) :
    i ∈ w.db.instances ∨ (i.updatedAt = since env w' ∧ ¬HasReading i w) := by
  cases h with
  | idle | createClient | scan | resolveAlert => exact .inl hi
  | createInstance j fresh _ _ _ _ _ _ hupdated =>
    refine ((Table.mem_insert fresh).mp hi).symm.imp_right ?_
    rintro rfl
    refine ⟨hupdated, ?_⟩
    rintro ⟨r, hr, hid, -⟩
    exact fresh (Table.mem_ids.mpr ⟨r, hr, hid⟩)
  | updateStatus j hj data _ hchange k hk =>
    rcases Table.mem_update.mp hi with ⟨rfl, -⟩ | ⟨hi, -⟩
    · refine .inr ⟨rfl, ?_⟩
      rintro ⟨r, hr, hid, hsame⟩
      rw [Table.unique hr hj hid] at hsame
      exact InstanceStatusUpdate.apply_ne hchange hsame
    · exact .inl hi
  | deleteInstance => exact .inl (Table.mem_delete.mp hi).1

theorem Effect.instance_pos (h : Effect env ids w w') (hpos : ∀ i ∈ w.db.instances, 0 < i.id) :
    ∀ i ∈ w'.db.instances, 0 < i.id := by
  cases h with
  | idle | createClient | scan | resolveAlert => exact hpos
  | createInstance j fresh _ _ hid => exact Table.forall_mem_insert fresh hid hpos
  | updateStatus j hj => exact Table.forall_mem_update (hpos j hj) hpos
  | deleteInstance => exact Table.forall_mem_delete hpos

-- ---------------------------------------------------------------------------
-- Runs that start without the instances in question
-- ---------------------------------------------------------------------------

section
variable {env : Env} {start w : World} {past : List World} {i : Instance}

theorem Run.instance_pos (h : Run env start w past) (hpos : ∀ i ∈ start.db.instances, 0 < i.id) :
    ∀ i ∈ w.db.instances, 0 < i.id := by
  induction h with
  | start => exact hpos
  | step _ hstep ih => exact hstep.effect.instance_pos ih

theorem Run.updatedAt_le (h : Run env start w past) (hi : i ∈ w.db.instances)
    (hnew : i ∉ start.db.instances) :
    i.updatedAt ≤ since env w := by
  induction h with
  | start => exact absurd hi hnew
  | step _ hstep ih =>
    rcases hstep.effect.instance_origin hi with hi | ⟨hstamp, -⟩
    · exact (ih hi).trans hstep.effect.since_le
    · exact hstamp.le

theorem Run.mem_worldAt (h : Run env start w past) (hi : i ∈ w.db.instances)
    (hnew : i ∉ start.db.instances)
    (ht : i.updatedAt ≤ t) : i ∈ (worldAt env t w past).db.instances := by
  induction h with
  | start => exact absurd hi hnew
  | step _ hstep ih =>
    rw [worldAt]
    split
    · exact hi
    · next hlater =>
      rcases hstep.effect.instance_origin hi with hi | ⟨hstamp, -⟩
      · exact ih hi
      · exact absurd (hstamp ▸ ht) hlater

/-- The reading a row shows has been held since exactly its `updatedAt`. -/
theorem Run.heldSince_iff (h : Run env start w past) (hi : i ∈ w.db.instances)
    (hnew : i ∉ start.db.instances) :
    heldSince env b (HasReading i) w past ↔ i.updatedAt ≤ b := by
  induction h with
  | start => exact absurd hi hnew
  | @step w w' past run hstep ih =>
    have hhead : HasReading i w' := ⟨i, hi, rfl, rfl, rfl⟩
    rw [heldSince, and_iff_right hhead]
    rcases hstep.effect.instance_origin hi with hi | ⟨hstamp, hdiffers⟩
    · rw [ih hi]
      -- a bound at or after the new world's instant is after the row's own stamp
      have hle : i.updatedAt ≤ since env w' :=
        (run.updatedAt_le hi hnew).trans hstep.effect.since_le
      constructor
      · intro himp
        by_contra hlt
        exact hlt (himp ((Int.not_le.mp hlt).trans_le hle))
      · exact fun hb _ => hb
    · rw [hstamp]
      constructor
      · intro himp
        by_contra hlt
        have hheld := himp (Int.not_le.mp hlt)
        cases past with
        | nil => exact hdiffers hheld
        | cons v past => exact hdiffers hheld.1
      · exact fun hb hlt => absurd hlt (Int.not_lt.mpr hb)

end

-- One stopped instance: registered on the second reading of a clock that moves
-- on by a day each time, its CPU reading updated on the third.

def oneClient : World where
  db := { Database.empty with clients := ⟨[⟨1, "VinaSoft", .premium, 2, 0⟩], by simp⟩ }
  tick := 0

def stoppedOnce : World :=
  call (.every 86400000000) (.createInstance {
    instanceName := "batch-01", region := "ap-southeast-1", instanceType := .small
    status := .stopped, clientId := 1, instanceName_length := by decide
    region_length := by decide, cpuUsage_range := by decide +kernel }) oneClient

def stoppedReading : World :=
  call (.every 86400000000) (.updateStatus 1 {
    status := .stopped, cpuUsage := some 5, cpuUsage_range := by decide +kernel }) stoppedOnce

theorem stoppedReading_run :
    Run (.every 86400000000) oneClient stoppedReading [stoppedOnce, oneClient] :=
  .step (.step .start (.call _)) (.call _)

def batchInstance : Instance :=
  ⟨1, "batch-01", "ap-southeast-1", .small, .stopped, 5, 50, 1, 0, 172800000000⟩

end CloudMonitor
