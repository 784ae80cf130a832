import GpuCluster.Arithmetic
import GpuCluster.Index
import GpuCluster.Usage.Snapshot

/-!
# The account of a job

Samples are counted per second: each second with samples is billed, for every GPU seen in it, until
the next such second. The last one is billed for the usual interval between samples.

* `medianInterval` : the usual interval, the median of the positive gaps;
* `slots` : the seconds with samples and the GPUs seen in each;
* `billed` : what each second is billed for; `totalSeconds` adds it up;
* `summarize` : the summary of a job.
-/

namespace GpuCluster.Usage

/-- The interval that is assumed where samples show none. -/
def defaultInterval : Duration := .ofSeconds 30

def gaps : List Int → Except Fault (List Int64)
  | a :: b :: rest => do
    let gap ← Checked.fitI64 .subtract (b - a)
    let others ← gaps (b :: rest)
    .ok (gap :: others)
  | _ => .ok []

/-- The positive differences of neighbours, the smallest first. -/
def positiveGaps (seconds : List Int) : Except Fault (List UInt64) := do
  let all ← gaps seconds
  .ok (((all.filter (0 < ·)).map Int64.toUInt64).mergeSort fun a b => a ≤ b)

/-- The mean of two numbers of seconds. -/
def mean (a b : UInt64) : Except Fault Duration := do
  let thousandths ← Checked.mulU64 (← Checked.addU64 a b) 1000
  .ok (.ofMillis (thousandths / 2).toNat)

/-- The median of an ascending list: the middle, or the mean of the two in the middle. -/
def median (sorted : List UInt64) : Except Fault Duration :=
  let middle := sorted.length / 2
  if sorted.length % 2 = 1 then .ok (.ofSeconds (sorted.getD middle 0).toNat)
  else mean (sorted.getD (middle - 1) 0) (sorted.getD middle 0)

def medianInterval (seconds : List Int) : Except Fault Duration := do
  match ← positiveGaps seconds with
  | [] => .ok defaultInterval
  | sorted => median sorted

/-- The seconds with samples, in order, each with the keys of the GPUs seen in it. -/
abbrev Slots := Index Int (List String)

/-- Note that a GPU was seen in a second. -/
def Slots.note (slots : Slots) (s : Snapshot) : Slots :=
  let seen := (slots.get? s.timestamp.seconds).getD []
  slots.set s.timestamp.seconds (if seen.contains s.gpuKey then seen else s.gpuKey :: seen)

def slots (rows : List Snapshot) : Slots := rows.foldl Slots.note .empty

/-- What each second is billed for: the time to the next one, `usual` for the last one, and the
number of its GPUs. -/
def bill (usual : Duration) : List (Int × List String) → List (Duration × Nat)
  | [] => []
  | [(_, gpus)] => [(usual, gpus.length)]
  | (a, gpus) :: (b, others) :: rest =>
    (.ofSeconds (b - a).toNat, gpus.length) :: bill usual ((b, others) :: rest)

def billed (rows : List Snapshot) : Except Fault (List (Duration × Nat)) := do
  let filed := slots rows
  let usual ← medianInterval filed.keys
  .ok (bill usual filed.entries)

/-- The seconds of a bill, each as often as it has GPUs, added up one after another. -/
def totalSeconds {α : Type} [NatCast α] [Add α] [Mul α] [Div α] (items : List (Duration × Nat)) :
    α :=
  items.foldl (fun sum (d, gpus) => sum + d.inSeconds * gpus) (0 : Nat)

/-- The sum of memory figures, kept within its range at every step. -/
def memorySum (rows : List Snapshot) : Int64 :=
  rows.foldl (fun sum s => Saturating.addI64 sum s.memoryBytes) 0

/-- The largest memory figure, at least zero. -/
def peakMemory (rows : List Snapshot) : Int64 := rows.foldl (fun peak s => max peak s.memoryBytes) 0

/-- The sum of utilizations, in order. -/
def utilizationSum (rows : List Snapshot) : Float :=
  rows.foldl (fun sum s => sum + s.utilization) 0

/-- The summary of a job; there is none without snapshots. -/
def summarize (id : JobId) (rows : List Snapshot) (now : Instant) : Except Fault (Option Summary) :=
  match rows with
  | [] => .ok none
  | r :: rest => do
    let items ← billed rows
    .ok (some {
      jobId := id
      totalGpuSeconds := totalSeconds items
      peakMemoryBytes := peakMemory rows
      averageUtilization := utilizationSum rows / rows.length.toFloat
      averageMemoryBytes := memorySum rows / Int64.ofNat rows.length
      sampleCount := rows.length
      firstSampleAt := some ((rest.map (·.timestamp)).foldl Instant.earliest r.timestamp)
      lastSampleAt := some ((rest.map (·.timestamp)).foldl Instant.latest r.timestamp)
      computedAt := now })

end GpuCluster.Usage
