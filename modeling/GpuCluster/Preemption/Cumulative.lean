import GpuCluster.Arithmetic
import GpuCluster.Job.Store
import GpuCluster.Mps
import GpuCluster.Preemption.Strategy

/-!
# Victims by cumulated GPUs

Running jobs of a lower priority are lined up, the least important first. Jobs go as long as the
GPUs of all that go stay within the request plus the largest number any candidate holds.

* `VictimOrder` : newest or oldest first among equals, `VictimOrder.compare`;
* `gpusNeeded` : a requirement in whole GPUs;
* `selectVictims` : the jobs that go, a first part of the line;
* `cumulative` : the strategy.
-/

namespace GpuCluster.Preemption

/-- Which of two equally important jobs goes first. -/
inductive VictimOrder where
  /-- The newest job, so that long work survives. -/
  | newestFirst
  | oldestFirst
  deriving DecidableEq, Repr, Inhabited

namespace VictimOrder

/-- Which of two jobs goes first: the one of lower priority, then by age. -/
def compare (o : VictimOrder) (a b : Job) : Ordering :=
  let byPriority := Ord.compare a.priorityValue.toInt b.priorityValue.toInt
  match o with
  | newestFirst => byPriority.then (Instant.compare b.createdAt a.createdAt)
  | oldestFirst => byPriority.then (Instant.compare a.createdAt b.createdAt)

/-- Jobs in the order they go; jobs that compare as equal keep their order. -/
def sort (o : VictimOrder) (jobs : List Job) : List Job :=
  jobs.mergeSort fun a b => (o.compare a b).isLE

end VictimOrder

/-- The whole GPUs that a requirement needs. -/
def gpusNeeded (q : Requirement) : UInt32 := max q.gpu (Mps.toGpus q.mps)

/-- The largest number of GPUs that any of these jobs holds. -/
def headroom (candidates : List Job) : UInt32 := (candidates.map (·.requiredGpu)).foldl max 0

/-- The jobs of a line up to the first one with which the GPUs exceed the threshold. -/
def takeWithin (threshold : UInt64) : UInt64 → List Job → Except Fault (List Job)
  | _, [] => .ok []
  | taken, j :: rest => do
    let taken ← Checked.addU64 taken j.requiredGpu.toUInt64
    if taken ≤ threshold then
      let others ← takeWithin threshold taken rest
      .ok (j :: others)
    else .ok []

/-- The jobs of a line that go for a request. -/
def selectVictims (candidates : List Job) (requested : UInt32) : Except Fault (List Job) :=
  takeWithin (requested.toUInt64 + (headroom candidates).toUInt64) 0 candidates

def cumulativeName : String := "cumulative-gpu"

def cumulativeReason : String := "High priority task resource requirement"

/-- The strategy over the jobs of a store. -/
def cumulative {σ : Type} (store : Job.Store σ) (p : Policy) (o : VictimOrder) : Strategy σ where
  name := cumulativeName
  decide q :=
    if gpusNeeded q = 0 then return .none q
    else do
      let candidates ← store.runningBelow q.priorityValue
      let victims ← Action.ofChecked (selectVictims (o.sort candidates) (gpusNeeded q))
      return .of (victims.map (·.id)) cumulativeReason q p

end GpuCluster.Preemption
