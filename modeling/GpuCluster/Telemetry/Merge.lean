import GpuCluster.Cluster.Pod
import GpuCluster.Index
import GpuCluster.Metrics.Sample
import GpuCluster.Mps
import GpuCluster.Usage.Snapshot

/-!
# The samples of a pod, GPU by GPU

* `Gpu.ofSample` : the GPU that a sample is about;
* `merge` : the snapshots of a pod, one per GPU, in the order of their keys; the samples of both
  metrics are added up.
-/

namespace GpuCluster.Telemetry

/-- A GPU as samples name it. -/
structure Gpu where
  /-- Its number, minus one if it is not known. -/
  index : Int32
  /-- Empty if it is not known. -/
  uuid : String
  deriving DecidableEq, Repr

/-- The number of a GPU that is not known. -/
def unknownIndex : Int32 := -1

/-- The GPU that a sample is about. -/
def Gpu.ofSample (s : Metrics.Sample) : Gpu where
  index := ((s.label? "gpu_index").bind Decimal.parseI32).getD unknownIndex
  uuid := (s.label? "gpu_uuid").getD ""

/-- What is known of a pod before any sample is looked at. -/
structure Origin where
  job : JobId
  pod : Pod
  time : Instant
  units : UInt32

/-- The key of a GPU of a pod. -/
def Origin.keyOf (o : Origin) (g : Gpu) : String :=
  Usage.gpuKey o.pod.namespaceName o.pod.name g.index g.uuid

/-- The snapshot that the first sample of a GPU begins. -/
def Origin.begin (o : Origin) (s : Metrics.Sample) : Usage.Snapshot :=
  let gpu := Gpu.ofSample s
  { jobId := o.job, timestamp := o.time, podName := o.pod.name,
    podNamespace := o.pod.namespaceName, gpuIndex := gpu.index, gpuUuid := gpu.uuid,
    memoryBytes := 0, utilization := 0, node := (s.label? "node").getD o.pod.nodeName,
    units := o.units, physicalIndex := gpu.index }

inductive Metric where
  | memory
  | utilization
  deriving DecidableEq, Repr

/-- Add the value of a sample to a snapshot. A memory figure counts in whole bytes. -/
def addValue (metric : Metric) (value : Float) (s : Usage.Snapshot) :
    Except Fault Usage.Snapshot :=
  match metric with
  | .memory => do
    let bytes ← Checked.addI64 s.memoryBytes value.toInt64
    .ok { s with memoryBytes := bytes }
  | .utilization => .ok { s with utilization := s.utilization + value }

/-- The snapshots of a pod under the keys of their GPUs. -/
abbrev Snapshots := Index String Usage.Snapshot

/-- Add a sample to the snapshot of its GPU. -/
def addSample (o : Origin) (metric : Metric) (found : Snapshots) (s : Metrics.Sample) :
    Except Fault Snapshots := do
  let key := o.keyOf (Gpu.ofSample s)
  let snapshot ← addValue metric s.value ((found.get? key).getD (o.begin s))
  .ok (found.set key snapshot)

/-- The snapshots of a pod, from the samples of both metrics. -/
def merge (job : JobId) (pod : Pod) (time : Instant) (memory utilization : List Metrics.Sample) :
    Except Fault (List Usage.Snapshot) := do
  let units ← Mps.ofGpus pod.gpuRequest
  let o : Origin := ⟨job, pod, time, units⟩
  let found ← memory.foldlM (addSample o .memory) .empty
  let found ← utilization.foldlM (addSample o .utilization) found
  .ok found.values

end GpuCluster.Telemetry
