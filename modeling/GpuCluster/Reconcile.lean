import GpuCluster.Executor.Basic
import GpuCluster.Job.Store

/-!
# Reconciling

A pass brings the running jobs in line with what their executors report.

* `Reconcile.Finished` : a job that a pass moved out of running;
* `Reconcile.finish` : record the end of one job and let its executor forget it;
* `Reconcile.pass` : look at every running job once, in order of creation.
-/

namespace GpuCluster.Reconcile

/-- A job that has ended, with the status it ended in. -/
structure Finished where
  id : JobId
  status : JobStatus
  deriving DecidableEq, Repr

/-- The reason that a failed job is given. -/
def failureReason : String := "executor reported failure"

/-- The reason that goes with a final status. -/
def reasonFor (status : JobStatus) : Option String :=
  if status = .failed then some failureReason else none

variable {σ : Type}

/-- Record the end of a job, unless it is no longer running, and let its executor forget it. -/
def finish (registry : Executor.Registry (Executor σ)) (store : Job.Store σ) (now : Instant)
    (j : Job) (status : JobStatus) : Action σ (Option Finished) := do
  match ← Action.attempt (store.recordIf now j.id .running status (reasonFor status)) with
  | .error _ => return none
  | .ok moved => do
    Action.tolerate (registry.release j)
    return if moved then some ⟨j.id, status⟩ else none

def check (registry : Executor.Registry (Executor σ)) (store : Job.Store σ) (now : Instant)
    (j : Job) : Action σ (Option Finished) := do
  match ← Action.attempt (registry.status j) with
  | .error _ => return none
  | .ok status => if status.isTerminal then finish registry store now j status else return none

/-- Look at jobs one after the other. -/
def checkAll (registry : Executor.Registry (Executor σ)) (store : Job.Store σ) (now : Instant) :
    List Job → Action σ (List Finished)
  | [] => return []
  | j :: rest => do
    let finished ← check registry store now j
    return finished.toList ++ (← checkAll registry store now rest)

/-- Look at every running job. -/
def pass (registry : Executor.Registry (Executor σ)) (store : Job.Store σ) (now : Instant) :
    Action σ (List Finished) := do
  checkAll registry store now (← store.withStatus [.running])

end GpuCluster.Reconcile
