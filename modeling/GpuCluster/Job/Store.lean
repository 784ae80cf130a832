import GpuCluster.Action
import GpuCluster.Job.Archive

/-!
# Job stores

`Job.Store σ` is what the components ask of a place that keeps jobs; the calls run on a state `σ`
and may fail. `Job.Store.archive` keeps them in memory, and `Job.Store.within` finds a store in a
part of a larger state.
-/

namespace GpuCluster

/-- What a place that keeps jobs offers. -/
structure Job.Store (σ : Type) where
  /-- The jobs whose status is one of these, in order of creation. -/
  withStatus : List JobStatus → Action σ (List Job)
  find : JobId → Action σ Job
  create : Job → Action σ Unit
  /-- Record a status, whatever the present one is. -/
  record : Instant → JobId → JobStatus → Option String → Action σ Unit
  /-- Record a status if the present one is the first given, and tell whether it was. -/
  recordIf : Instant → JobId → JobStatus → JobStatus → Option String → Action σ Bool

namespace Job.Store

variable {σ τ : Type}

/-- Running jobs of a priority strictly below this one. -/
def runningBelow (store : Store σ) (priority : Int32) : Action σ (List Job) := do
  let running ← store.withStatus [.running]
  return running.filter fun j => j.priorityValue < priority

def archive : Store Archive where
  withStatus statuses := fun a => .ok (a.withStatus statuses) a
  find id := fun a => match a.find? id with
    | some j => .ok j a
    | none => .error (.error (.noSuchJob id)) a
  create j := fun a => match a.add j with
    | .ok a' => .ok () a'
    | .error e => .error (.error e) a
  record now id status reason := fun a => match a.record now id status reason with
    | .ok a' => .ok () a'
    | .error e => .error (.error e) a
  recordIf now id expected status reason := fun a =>
    match a.recordIf now id expected status reason with
    | .ok (moved, a') => .ok moved a'
    | .error e => .error (.error e) a

/-- A store that lives in a part of the state. -/
def within (part : Lens σ τ) (store : Store τ) : Store σ where
  withStatus statuses := (store.withStatus statuses).zoom part
  find id := (store.find id).zoom part
  create j := (store.create j).zoom part
  record now id status reason := (store.record now id status reason).zoom part
  recordIf now id expected status reason :=
    (store.recordIf now id expected status reason).zoom part

end Job.Store

end GpuCluster
