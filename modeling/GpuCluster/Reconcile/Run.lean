import GpuCluster.Reconcile
import GpuCluster.Timetable

/-!
# The reconcile loop

* `Reconcile.tick` : one pass, whose finished jobs are reported one by one;
* `Reconcile.run` : a pass at every tick before a horizon.
-/

namespace GpuCluster.Reconcile

variable {σ : Type}

def reportAll (report : Finished → Action σ Unit) : List Finished → Action σ Unit
  | [] => return
  | f :: rest => do
    report f
    reportAll report rest

/-- One pass. A pass that fails reports nothing. -/
def tick (registry : Executor.Registry (Executor σ)) (store : Job.Store σ) (now : Instant)
    (report : Finished → Action σ Unit) : Action σ Unit := do
  match ← Action.attempt (pass registry store now) with
  | .ok finished => reportAll report finished
  | .error _ => return

/-- A pass at every multiple of the period before the horizon. The timer is set while the clock
shows `uptime`. -/
def run (registry : Executor.Registry (Executor σ)) (store : Job.Store σ) (clock : Action σ Instant)
    (elapsed : Lens σ Nat) (report : Finished → Action σ Unit) (uptime period horizon : Nat) :
    Action σ Unit := do
  Action.ofChecked (Timetable.checkPeriod uptime period)
  Timetable.run elapsed (return false)
    (fun () => do tick registry store (← clock) report)
    (Timetable.every period horizon ())

end GpuCluster.Reconcile
