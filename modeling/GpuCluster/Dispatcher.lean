import GpuCluster.Executor.Basic
import GpuCluster.Job.Queue
import GpuCluster.Job.Store

/-!
# Dispatching

A dispatcher owns the queue of waiting jobs and hands them out one at a time to the executor of
their type.

* `Dispatcher` : the queue, the counters and the running flag;
* `Dispatcher.Outcome` : what became of one job;
* `Dispatcher.enqueue`, `Dispatcher.dispatchNext` : a new job, the next job.
-/

namespace GpuCluster

namespace Error

/-- Only one dispatch loop runs at a time. -/
def loopRunning : Error := .conflict "dispatch loop is already running"

end Error

/-- The queue of waiting jobs and what has been done so far. -/
structure Dispatcher where
  queue : Job.Queue := .empty
  isRunning : Bool := false
  dispatched : Nat := 0
  failed : Nat := 0
  skipped : Nat := 0
  deriving Inhabited

namespace Dispatcher

/-- What became of a job that was handed out. -/
inductive Outcome where
  /-- An executor took the job; it is running. -/
  | started (id : JobId)
  /-- The executor failed; the job has failed. -/
  | failed (id : JobId) (reason : String)
  /-- There is no executor for the job; its status is as before. -/
  | unsupported (id : JobId) (jobType : String)
  deriving DecidableEq, Repr

/-- Add a job behind all waiting jobs of its tier. -/
def enqueue (d : Dispatcher) (j : Job) : Dispatcher := { d with queue := d.queue.push j }

def depth (d : Dispatcher) : Nat := d.queue.size

def count (d : Dispatcher) : Outcome → Dispatcher
  | .started _ => { d with dispatched := d.dispatched + 1 }
  | .failed _ _ => { d with failed := d.failed + 1 }
  | .unsupported _ _ => { d with skipped := d.skipped + 1 }

/-- What the answer of the registry means for a job. -/
def outcomeOf (j : Job) : Except Error Unit → Outcome
  | .ok () => .started j.id
  | .error (.executorNotFound _) => .unsupported j.id j.jobType
  | .error e => .failed j.id e.message

variable {σ : Type}

/-- Record what became of a job. A store that fails is not heard. -/
def recordOutcome (store : Job.Store σ) (now : Instant) : Outcome → Action σ Unit
  | .started id => Action.tolerate (store.record now id .running none)
  | .failed id reason => Action.tolerate (store.record now id .failed (some reason))
  | .unsupported _ _ => pure ()

/-- Hand out the next job, if there is one. -/
def dispatchNext (part : Lens σ Dispatcher) (registry : Executor.Registry (Executor σ))
    (store : Job.Store σ) (now : Instant) : Action σ (Option Outcome) := do
  let d ← Action.read part
  match d.queue.pop? with
  | none => return none
  | some (j, queue) => do
    Action.write part { d with queue := queue }
    let outcome := outcomeOf j (← Action.attempt (registry.execute j))
    Action.update part (·.count outcome)
    recordOutcome store now outcome
    return some outcome

end Dispatcher

end GpuCluster
