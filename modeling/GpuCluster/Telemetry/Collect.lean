import GpuCluster.Telemetry.Basic
import GpuCluster.Telemetry.Merge

/-!
# Collecting snapshots

A cycle samples the pods of all running jobs and stores what it found in one batch.

* `samplePod`, `sampleJob` : the snapshots of one pod, of one job; a call that fails costs only
  what it would have answered;
* `collect` : a cycle; one that is called off stores nothing.
-/

namespace GpuCluster.Telemetry

variable {σ : Type}

/-- The samples of one metric of a pod; none if the backend fails. -/
def samplesOf (t : Telemetry σ) (backend : Metrics.Backend σ) (metric : String) (pod : Pod)
    (time : Instant) : Action σ (Option (List Metrics.Sample)) :=
  t.ask (backend (Metrics.podQuery metric pod.namespaceName pod.name) time)

/-- The snapshots of a pod. There are none of a pod that has ended, or if both metrics fail. -/
def samplePod (t : Telemetry σ) (backend : Metrics.Backend σ) (job : JobId) (pod : Pod) :
    Action σ (List Usage.Snapshot) :=
  if pod.phase.isTerminal then return []
  else do
    let time ← t.clock
    let memory ← t.samplesOf backend t.names.memoryMetric pod time
    let utilization ← t.samplesOf backend t.names.utilizationMetric pod time
    if memory.isNone && utilization.isNone then return []
    else Action.ofChecked (merge job pod time (memory.getD []) (utilization.getD []))

/-- The snapshots of some pods, in their order. -/
def samplePods (t : Telemetry σ) (backend : Metrics.Backend σ) (job : JobId) :
    List Pod → Action σ (List Usage.Snapshot)
  | [] => return []
  | pod :: rest => do
    let first ← t.samplePod backend job pod
    return first ++ (← samplePods t backend job rest)

/-- The label selector of the pods of a job. -/
def selectorOf (t : Telemetry σ) (job : JobId) : String := t.names.jobLabel ++ "=" ++ job.toText

/-- The snapshots of a job. There are none without a namespace, or if its pods cannot be listed. -/
def sampleJob (t : Telemetry σ) (backend : Metrics.Backend σ) (cluster : Cluster σ) (j : Job) :
    Action σ (List Usage.Snapshot) :=
  if j.namespaceName = "" then return []
  else do
    match ← t.ask (cluster j.namespaceName (t.selectorOf j.id)) with
    | none => return []
    | some pods => t.samplePods backend j.id pods

/-- The snapshots of some jobs, in their order. -/
def sampleJobs (t : Telemetry σ) (backend : Metrics.Backend σ) (cluster : Cluster σ) :
    List Job → Action σ (List Usage.Snapshot)
  | [] => return []
  | j :: rest => do
    let first ← t.sampleJob backend cluster j
    return first ++ (← sampleJobs t backend cluster rest)

/-- Sample all running jobs and store the snapshots; answer how many there are. -/
def collect (t : Telemetry σ) : Action σ Nat := do
  match t.backend, t.cluster with
  | none, _ => Action.fail .noBackend
  | some _, none => Action.fail .noCluster
  | some backend, some cluster => do
    let running ← t.jobs.withStatus [.running]
    if running.isEmpty then return 0
    else do
      let batch ← t.sampleJobs backend cluster running
      t.usage.insert batch
      return batch.length

end GpuCluster.Telemetry
