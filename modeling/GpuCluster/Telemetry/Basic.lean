import GpuCluster.Cluster.Pod
import GpuCluster.Job.Store
import GpuCluster.Metrics.Sample
import GpuCluster.Usage.Tables

/-!
# Telemetry

* `Telemetry.Names` : the label and the metrics that it goes by;
* `Telemetry σ` : the collaborators that it works with;
* `Telemetry.call`, `Telemetry.ask` : a call to one of them within a cycle that may be called off.
-/

namespace GpuCluster

/-- The label and the metrics that telemetry goes by. -/
structure Telemetry.Names where
  /-- The label of a pod that names its job. -/
  jobLabel : String := "platform.job-id"
  memoryMetric : String := "flashsched_pod_gpu_mps_memory_bytes"
  utilizationMetric : String := "flashsched_pod_gpu_sm_utilization_ratio"
  deriving DecidableEq, Repr, Inhabited

structure Telemetry (σ : Type) where
  names : Telemetry.Names
  jobs : Job.Store σ
  usage : Usage.Store σ
  backend : Option (Metrics.Backend σ)
  cluster : Option (Cluster σ)
  /-- The time of day. -/
  clock : Action σ Instant
  /-- The present cycle has been called off. -/
  calledOff : Action σ Bool

namespace Error

def noBackend : Error := .unavailable "metrics backend not configured"

def noCluster : Error := .unavailable "cluster client not configured"

/-- The cycle was called off before a call. -/
def cycleCalledOff : Error := .cancelled "telemetry cycle"

/-- The pass over the summaries was called off. -/
def passCalledOff : Error := .cancelled "summary pass"

end Error

namespace Telemetry

variable {σ α : Type}

/-- Make a call, unless the cycle has been called off. -/
def call (t : Telemetry σ) (x : Action σ α) : Action σ α := do
  if ← t.calledOff then Action.fail .cycleCalledOff else x

/-- Make a call whose failure costs no more than its answer. Only a cancellation ends the cycle. -/
def ask (t : Telemetry σ) (x : Action σ α) : Action σ (Option α) := do
  match ← Action.attempt (t.call x) with
  | .ok a => return some a
  | .error (.cancelled detail) => Action.fail (.cancelled detail)
  | .error _ => return none

end Telemetry

end GpuCluster
