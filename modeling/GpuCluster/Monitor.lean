import GpuCluster.Action
import GpuCluster.Text.Json.Record
import GpuCluster.Time.Rfc3339

/-!
# The resource monitor

* `Reading` : the resources of the cluster or of one node at one time, how far they are used, and
  whether there is room for more work;
* `Monitor` : the last reading of the cluster and of each node; `shortage` says that the cluster
  has no room, and `shortageIn` asks the monitor in a part of a state.
-/

namespace GpuCluster

/-- The resources of the cluster or of one node at one time. -/
structure Reading where
  totalCpu : Float := 0
  usedCpu : Float := 0
  totalMemory : UInt64 := 0
  usedMemory : UInt64 := 0
  totalGpu : UInt32 := 0
  usedGpu : UInt32 := 0
  availableMps : UInt32 := 0
  timestamp : Option Instant := none
  nodeName : Option String := none
  podCount : UInt32 := 0
  jobCount : UInt32 := 0
  deriving Inhabited

namespace Reading

/-- The used part of the processors in percent; nothing of none. -/
def cpuPercent (r : Reading) : Float :=
  if r.totalCpu == 0 then 0 else r.usedCpu / r.totalCpu * 100

/-- The used part of the memory in percent. -/
def memoryPercent (r : Reading) : Float :=
  if r.totalMemory = 0 then 0 else r.usedMemory.toNat.toFloat / r.totalMemory.toNat.toFloat * 100

/-- The used part of the GPUs in percent. -/
def gpuPercent (r : Reading) : Float :=
  if r.totalGpu = 0 then 0 else r.usedGpu.toNat.toFloat / r.totalGpu.toNat.toFloat * 100

/-- Processors and memory have room, and so have the GPUs, if there are any. -/
def hasRoom (r : Reading) : Bool :=
  decide (r.usedCpu < r.totalCpu) && decide (r.usedMemory < r.totalMemory) &&
    (r.totalGpu = 0 || decide (r.usedGpu < r.totalGpu))

def toJson (r : Reading) : Json :=
  .obj [("total_cpu", .ofFloat r.totalCpu), ("used_cpu", .ofFloat r.usedCpu),
    ("total_memory", .ofNat r.totalMemory.toNat), ("used_memory", .ofNat r.usedMemory.toNat),
    ("total_gpu", .ofNat r.totalGpu.toNat), ("used_gpu", .ofNat r.usedGpu.toNat),
    ("available_mps", .ofNat r.availableMps.toNat),
    ("timestamp", .ofOption Instant.toJson r.timestamp),
    ("node_name", .ofOption .str r.nodeName), ("pod_count", .ofNat r.podCount.toNat),
    ("job_count", .ofNat r.jobCount.toNat)]

def fieldNames : List String :=
  ["total_cpu", "used_cpu", "total_memory", "used_memory", "total_gpu", "used_gpu",
    "available_mps", "timestamp", "node_name", "pod_count", "job_count"]

def fromJson? (j : Json) : Option Reading := do
  let r ← Record.open? fieldNames j
  return {
    totalCpu := ← r.require "total_cpu" Json.float?
    usedCpu := ← r.require "used_cpu" Json.float?
    totalMemory := ← r.require "total_memory" Json.u64?
    usedMemory := ← r.require "used_memory" Json.u64?
    totalGpu := ← r.require "total_gpu" Json.u32?
    usedGpu := ← r.require "used_gpu" Json.u32?
    availableMps := ← r.require "available_mps" Json.u32?
    timestamp := ← r.optional "timestamp" Json.instant?
    nodeName := ← r.optional "node_name" Json.text?
    podCount := ← r.require "pod_count" Json.u32?
    jobCount := ← r.require "job_count" Json.u32? }

/-- The reading with a time, its own or else `now`. -/
def stamped (r : Reading) (now : Instant) : Reading :=
  { r with timestamp := some (r.timestamp.getD now) }

end Reading

namespace Error

def noReading : Error := .unavailable "no cluster metrics recorded yet"

def noNodeReading (node : String) : Error := .unavailable ("no metrics for node " ++ node)

end Error

structure Monitor where
  cluster : Option Reading := none
  nodes : Bindings Reading := ∅
  isRunning : Bool := false
  deriving Inhabited

namespace Monitor

def record (m : Monitor) (now : Instant) (r : Reading) : Monitor :=
  { m with cluster := some (r.stamped now) }

def recordNode (m : Monitor) (now : Instant) (node : String) (r : Reading) : Monitor :=
  { m with nodes := m.nodes.set node ({ r with nodeName := some node }.stamped now) }

/-- The last reading of the cluster. -/
def reading (m : Monitor) : Except Error Reading :=
  match m.cluster with
  | some r => .ok r
  | none => .error .noReading

/-- The last reading of a node. -/
def nodeReading (m : Monitor) (node : String) : Except Error Reading :=
  match m.nodes.get? node with
  | some r => .ok r
  | none => .error (.noNodeReading node)

/-- The cluster has no room for more work. -/
def shortage (m : Monitor) : Except Error Bool := m.reading.map fun r => !r.hasRoom

/-- The cluster has no room for more work, by the monitor in a part of the state. -/
def shortageIn {σ : Type} (part : Lens σ Monitor) : Action σ Bool := do
  Action.ofExcept (← Action.read part).shortage

def start (m : Monitor) : Monitor := { m with isRunning := true }

def stop (m : Monitor) : Monitor := { m with isRunning := false }

end Monitor

end GpuCluster
