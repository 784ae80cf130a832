import GpuCluster.Arithmetic
import GpuCluster.Text.Bindings
import GpuCluster.Text.Json.Record

/-!
# Shares of a GPU

A dedicated GPU is worth `Mps.unitsPerGpu` units of the multi-process service. Going back from
units to GPUs rounds up, so that a share is never backed by less than it asked for.

* `Mps.ofGpus`, `Mps.toGpus`, `Mps.total` : conversions and sums;
* `Mps.Limits` : the thread share and the memory limit of a container, with the environment they
  are handed over in.
-/

namespace GpuCluster

namespace Mps

/-- The units that one dedicated GPU is worth. -/
def unitsPerGpu : UInt32 := 10

def ofGpus (gpus : UInt32) : Except Fault UInt32 := Checked.mul32 gpus unitsPerGpu

/-- The whole GPUs that back some units. -/
def toGpus (units : UInt32) : UInt32 := ceilDiv units unitsPerGpu

/-- The sum of requests, in order. -/
def total (requests : List UInt32) : Except Fault UInt32 := requests.foldlM Checked.add32 0

/-- A request fits into what is available. -/
def fits (requested available : UInt32) : Bool := requested ≤ available

/-- A quota of GPUs is positive. -/
def isGpuQuota (n : Int64) : Bool := 0 < n

/-- The bounds of a thread share in percent. -/
def lowestShare : Int32 := 0

def highestShare : Int32 := 100

/-- A thread share lies within its bounds. -/
def isThreadShare (percent : Int32) : Bool := lowestShare ≤ percent && percent ≤ highestShare

structure Limits where
  /-- The active thread share in percent. -/
  threadPercentage : Int32 := 100
  /-- The pinned device memory in megabytes; zero for no limit. -/
  memoryMegabytes : Int64 := 0
  deriving DecidableEq, Repr

namespace Limits

/-- The thread share lies within its bounds and the memory limit is not negative. -/
def validate (l : Limits) : Except Error Unit :=
  if !isThreadShare l.threadPercentage then
    .error (.configuration ("MPS thread percentage " ++ toString l.threadPercentage.toInt ++
      " outside " ++ toString lowestShare.toInt ++ "..=" ++ toString highestShare.toInt))
  else if l.memoryMegabytes < 0 then
    .error (.configuration ("MPS memory limit must not be negative, got " ++
      toString l.memoryMegabytes.toInt))
  else .ok ()

/-- The variable that carries the thread share. -/
def threadVariable : String := "CUDA_MPS_ACTIVE_THREAD_PERCENTAGE"

/-- The variable that carries the memory limit. -/
def memoryVariable : String := "CUDA_MPS_PINNED_DEVICE_MEM_LIMIT"

/-- The environment of the container; a limit of zero or less is not set. -/
def environment (l : Limits) : List (String × String) :=
  (if 0 < l.threadPercentage then [(threadVariable, toString l.threadPercentage.toInt)] else []) ++
  (if 0 < l.memoryMegabytes then [(memoryVariable, toString l.memoryMegabytes.toInt ++ "M")]
    else [])

def toJson (l : Limits) : Json :=
  .obj [("thread_percentage", .ofInt l.threadPercentage.toInt),
    ("memory_limit_mb", .ofInt l.memoryMegabytes.toInt)]

def fromJson? (j : Json) : Option Limits := do
  let r ← Record.open? ["thread_percentage", "memory_limit_mb"] j
  return {
    threadPercentage := ← r.require "thread_percentage" Json.i32?
    memoryMegabytes := ← r.require "memory_limit_mb" Json.i64? }

end Limits

end Mps

end GpuCluster
