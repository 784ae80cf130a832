import GpuCluster.Job.Json

/-!
# Usage records

* `Usage.Snapshot` : one sample of one GPU that a pod uses, with `gpuKey` to tell GPUs apart;
* `Usage.Page` : some of the snapshots of a job and how many there are;
* `Usage.Summary` : the account of a finished job.
-/

namespace GpuCluster.Usage

/-- The text that tells a GPU of a pod apart from all others. -/
def gpuKey (podNamespace podName : String) (index : Int32) (uuid : String) : String :=
  podNamespace ++ "/" ++ podName ++ ":" ++ toString index.toInt ++ ":" ++ uuid

/-- One sample of one GPU of a pod. -/
structure Snapshot where
  /-- The number in the order of storing; zero before. -/
  id : Nat := 0
  jobId : JobId
  timestamp : Instant
  podName : String
  podNamespace : String
  gpuIndex : Int32
  gpuUuid : String
  memoryBytes : Int64
  utilization : Float
  node : String
  /-- The units of the GPUs that the pod asked for. -/
  units : UInt32
  physicalIndex : Int32
  deriving Inhabited

namespace Snapshot

def gpuKey (s : Snapshot) : String := Usage.gpuKey s.podNamespace s.podName s.gpuIndex s.gpuUuid

def toJson (s : Snapshot) : Json :=
  .obj [("id", .ofNat s.id), ("job_id", s.jobId.toJson), ("timestamp", s.timestamp.toJson),
    ("pod_name", .str s.podName), ("pod_namespace", .str s.podNamespace),
    ("gpu_index", .ofInt s.gpuIndex.toInt), ("gpu_uuid", .str s.gpuUuid),
    ("gpu_memory_bytes", .ofInt s.memoryBytes.toInt), ("gpu_utilization", .ofFloat s.utilization),
    ("node", .str s.node), ("mps_virtual_units", .ofNat s.units.toNat),
    ("mps_physical_gpu_index", .ofInt s.physicalIndex.toInt)]

def fieldNames : List String :=
  ["id", "job_id", "timestamp", "pod_name", "pod_namespace", "gpu_index", "gpu_uuid",
    "gpu_memory_bytes", "gpu_utilization", "node", "mps_virtual_units", "mps_physical_gpu_index"]

def fromJson? (j : Json) : Option Snapshot := do
  let r ← Record.open? fieldNames j
  return {
    id := (← r.require "id" Json.u64?).toNat
    jobId := ← r.require "job_id" Json.jobId?
    timestamp := ← r.require "timestamp" Json.instant?
    podName := ← r.require "pod_name" Json.text?
    podNamespace := ← r.require "pod_namespace" Json.text?
    gpuIndex := ← r.require "gpu_index" Json.i32?
    gpuUuid := ← r.require "gpu_uuid" Json.text?
    memoryBytes := ← r.require "gpu_memory_bytes" Json.i64?
    utilization := ← r.require "gpu_utilization" Json.float?
    node := ← r.require "node" Json.text?
    units := ← r.require "mps_virtual_units" Json.u32?
    physicalIndex := ← r.require "mps_physical_gpu_index" Json.i32? }

end Snapshot

/-- Some of the snapshots of a job, and the number of all. -/
structure Page where
  snapshots : List Snapshot
  total : Nat
  deriving Inhabited

structure Summary where
  jobId : JobId
  totalGpuSeconds : Float
  peakMemoryBytes : Int64
  averageUtilization : Float
  averageMemoryBytes : Int64
  sampleCount : Nat
  firstSampleAt : Option Instant
  lastSampleAt : Option Instant
  computedAt : Instant
  deriving Inhabited

namespace Summary

def toJson (s : Summary) : Json :=
  .obj [("job_id", s.jobId.toJson), ("total_gpu_seconds", .ofFloat s.totalGpuSeconds),
    ("peak_memory_bytes", .ofInt s.peakMemoryBytes.toInt),
    ("avg_utilization", .ofFloat s.averageUtilization),
    ("avg_memory_bytes", .ofInt s.averageMemoryBytes.toInt),
    ("sample_count", .ofNat s.sampleCount),
    ("first_sample_at", .ofOption Instant.toJson s.firstSampleAt),
    ("last_sample_at", .ofOption Instant.toJson s.lastSampleAt),
    ("computed_at", s.computedAt.toJson)]

def fieldNames : List String :=
  ["job_id", "total_gpu_seconds", "peak_memory_bytes", "avg_utilization", "avg_memory_bytes",
    "sample_count", "first_sample_at", "last_sample_at", "computed_at"]

def fromJson? (j : Json) : Option Summary := do
  let r ← Record.open? fieldNames j
  return {
    jobId := ← r.require "job_id" Json.jobId?
    totalGpuSeconds := ← r.require "total_gpu_seconds" Json.float?
    peakMemoryBytes := ← r.require "peak_memory_bytes" Json.i64?
    averageUtilization := ← r.require "avg_utilization" Json.float?
    averageMemoryBytes := ← r.require "avg_memory_bytes" Json.i64?
    sampleCount := (← r.require "sample_count" Json.u64?).toNat
    firstSampleAt := ← r.optional "first_sample_at" Json.instant?
    lastSampleAt := ← r.optional "last_sample_at" Json.instant?
    computedAt := ← r.require "computed_at" Json.instant? }

end Summary

end GpuCluster.Usage
