import CloudMonitor.Effects
import CloudMonitor.Seed

/-!
# Sequential runs

A run takes one step after another: a call of a service function by anyone, a
request, or time that passes. `Run` keeps the earlier worlds, newest first,
which is what a statement about the past needs.
-/

namespace CloudMonitor

open Fallible

/-- The service functions that write, as any caller may call them. -/
inductive ServiceCall
  | createClient (data : ClientCreate)
  | createInstance (data : InstanceCreate)
  | updateStatus (instanceId : ℤ) (data : InstanceStatusUpdate)
  | deleteInstance (instanceId : ℤ)
  | checkWarnings (caller : Member) (page size : ℕ)
  | checkErrors (caller : Member) (page size : ℕ)
  | checkLongStopped (caller : Member) (page size : ℕ)
  | resolveAlert (alertId : ℤ)

def ServiceCall.svc (env : Env) : ServiceCall → Svc Unit
  | .createClient data => do let _ ← CloudMonitor.createClient env data
  | .createInstance data => do let _ ← CloudMonitor.createInstance env data
  | .updateStatus instanceId data => do let _ ← CloudMonitor.updateStatus env instanceId data
  | .deleteInstance instanceId => CloudMonitor.deleteInstance instanceId
  | .checkWarnings caller page size => do
    let _ ← CloudMonitor.checkWarnings env (accessibleClientIds caller) page size
  | .checkErrors caller page size => do
    let _ ← CloudMonitor.checkErrors env (accessibleClientIds caller) page size
  | .checkLongStopped caller page size => do
    let _ ← CloudMonitor.checkLongStopped env (accessibleClientIds caller) page size
  | .resolveAlert alertId => do let _ ← CloudMonitor.resolveAlert env alertId

def call (env : Env) (c : ServiceCall) (w : World) : World := ((c.svc env).run w.session).2.world

inductive Step (env : Env) (w : World) : World → Prop
  | call (c : ServiceCall) : Step env w (call env c w)
  | serve (sub : ℤ) (req : Request) : Step env w (serve env sub req w).2
  | wait (n : ℕ) (h : w.tick ≤ n) : Step env w { w with tick := n }

/-- A run from `start` to `w`, with the worlds before `w`. -/
inductive Run (env : Env) (start : World) : World → List World → Prop
  | start : Run env start start []
  | step {w w' past} (run : Run env start w past) (step : Step env w w') :
    Run env start w' (w :: past)

def Reachable (env : Env) (w : World) : Prop := ∃ past, Run env (seeded env) w past

-- ---------------------------------------------------------------------------
-- Steps have effects
-- ---------------------------------------------------------------------------

theorem call_effect (env : Env) (c : ServiceCall) (w : World) :
    Effect env none w (call env c w) := by
  refine Moves.effect ?_
  cases c with
  | createClient data => exact (createClient_moves env data w).map fun _ => ()
  | createInstance data => exact (createInstance_moves env data w rfl).map fun _ => ()
  | updateStatus instanceId data =>
    exact (updateStatus_moves env instanceId data w fun _ _ _ => rfl).map fun _ => ()
  | deleteInstance instanceId => exact deleteInstance_moves env instanceId w fun _ _ _ => rfl
  | checkWarnings caller page size =>
    exact (scan_moves_now env (warningsJob env _) page size w fun _ _ => rfl).map fun _ => ()
  | checkErrors caller page size =>
    exact (scan_moves_now env (errorsJob _) page size w fun _ _ => rfl).map fun _ => ()
  | checkLongStopped caller page size =>
    exact (checkLongStopped_moves env page size w fun _ _ => rfl).map fun _ => ()
  | resolveAlert alertId =>
    exact (resolveAlert_moves env alertId w fun _ _ _ _ _ _ => rfl).map fun _ => ()

theorem Step.effect (h : Step env w w') : Effect env none w w' := by
  cases h with
  | call c => exact call_effect env c w
  | serve sub req => exact serve_effect_unscoped env sub req w
  | wait n h => exact .idle n h

end CloudMonitor
