import GpuCluster.Job.Id
import GpuCluster.Text.Bindings
import GpuCluster.Time.Instant

/-!
# Jobs

* `JobStatus` : the six statuses, `isTerminal` for those a job never leaves;
* `Tier` : the three queue tiers with their weights, read off a priority class by `Tier.ofLabel`;
* `Job` : a job with its resources and its history; `Job.advance` records a new status;
* `PriorityClass`, `Requirement` : reference data and a demand for capacity.
-/

namespace GpuCluster

/-- Where a job stands. -/
inductive JobStatus where
  | pending
  | running
  | completed
  | failed
  | preempted
  | cancelled
  deriving DecidableEq, Repr, Inhabited

namespace JobStatus

def name : JobStatus → String
  | pending => "PENDING"
  | running => "RUNNING"
  | completed => "COMPLETED"
  | failed => "FAILED"
  | preempted => "PREEMPTED"
  | cancelled => "CANCELLED"

def ofName? : String → Option JobStatus
  | "PENDING" => some pending
  | "RUNNING" => some running
  | "COMPLETED" => some completed
  | "FAILED" => some failed
  | "PREEMPTED" => some preempted
  | "CANCELLED" => some cancelled
  | _ => none

/-- The statuses that end a job. -/
def terminal : List JobStatus := [completed, failed, cancelled, preempted]

def isTerminal (s : JobStatus) : Bool := terminal.contains s

end JobStatus

/-- The queue tier of a job, from the least to the most urgent. -/
inductive Tier where
  | low
  | medium
  | high
  deriving DecidableEq, Repr, Inhabited

namespace Tier

def name : Tier → String
  | low => "low"
  | medium => "medium"
  | high => "high"

def ofName? : String → Option Tier
  | "low" => some low
  | "medium" => some medium
  | "high" => some high
  | _ => none

/-- The tier that a priority class stands for; an unknown class is of the low tier. -/
def ofLabel (label : String) : Tier :=
  if label = "high" then high else if label = "medium" then medium else low

/-- The weight of a tier in the queue. -/
def weight : Tier → Nat
  | high => 3
  | medium => 2
  | low => 1

/-- Tiers are compared by weight. -/
def compare (a b : Tier) : Ordering := Ord.compare a.weight b.weight

end Tier

/-- Whether a priority class may push out running work. -/
inductive PreemptionPolicy where
  | preemptLowerPriority
  | never
  deriving DecidableEq, Repr

/-- A named priority with its number; a higher number is more urgent. -/
structure PriorityClass where
  name : String
  value : Int32
  policy : PreemptionPolicy
  description : String
  deriving DecidableEq, Repr

/-- A workload with its demands and its history. -/
structure Job where
  id : JobId
  name : String := "job"
  projectId : String := ""
  namespaceName : String := "default"
  status : JobStatus := .pending
  /-- The name of the priority class, which is also the label of the tier. -/
  priorityClass : String := ""
  /-- The number of the priority class when the job was made. -/
  priorityValue : Int32 := 0
  /-- Whole GPUs. -/
  requiredGpu : UInt32 := 0
  /-- Shares of a GPU, in units; zero for jobs with whole GPUs. -/
  mpsUnits : UInt32 := 0
  node : Option String := none
  jobType : String := "batch"
  command : List String := []
  env : Bindings String := ∅
  replicas : UInt32 := 1
  /-- Why the job failed or was pushed out. -/
  errorMessage : Option String := none
  createdAt : Instant
  startedAt : Option Instant := none
  completedAt : Option Instant := none
  deriving DecidableEq, Repr, Inhabited

namespace Job

def batchType : String := "batch"

/-- The type of jobs with several replicas. -/
def mpiType : String := "mpi"

def tier (j : Job) : Tier := .ofLabel j.priorityClass

def isTerminal (j : Job) : Bool := j.status.isTerminal

/-- Record a status: the first start and every end get a time, a reason replaces the one before. -/
def advance (now : Instant) (status : JobStatus) (reason : Option String) (j : Job) : Job :=
  { j with
    status := status
    startedAt := if status = .running ∧ j.startedAt = none then some now else j.startedAt
    completedAt := if status.isTerminal then some now else j.completedAt
    errorMessage := reason.or j.errorMessage }

@[simp] theorem status_advance (now : Instant) (status : JobStatus) (reason : Option String)
    (j : Job) : (j.advance now status reason).status = status := rfl

@[simp] theorem id_advance (now : Instant) (status : JobStatus) (reason : Option String)
    (j : Job) : (j.advance now status reason).id = j.id := rfl

end Job

structure Requirement where
  cpu : Float := 0
  memory : UInt64 := 0
  gpu : UInt32 := 0
  mps : UInt32 := 0
  priorityValue : Int32 := 0
  /-- The job the capacity is for. -/
  requestedBy : Option JobId := none
  deriving Inhabited

def Requirement.forJob (j : Job) : Requirement :=
  { gpu := j.requiredGpu, mps := j.mpsUnits, priorityValue := j.priorityValue,
    requestedBy := some j.id }

end GpuCluster
