/-!
# Errors and faults

* `Error` : the thirteen kinds of failure a component reports, each with the detail that names
  its cause; `Error.kind` names the kinds, `Error.message` words the errors, `Error.isNotFound`
  picks out the unknown names;
* `Fault` : what ends an operation without an answer (arithmetic that leaves its width, a timer
  without a period or beyond the reach of the clock, a date before the first one), worded by
  `Fault.message`;
* `Failure` : either of the two.
-/

namespace GpuCluster

/-- A failure that a component reports to its caller; the field is the detail of the cause. -/
inductive Error where
  /-- A setting or a request is not acceptable. -/
  | configuration (detail : String)
  /-- No job has this id. -/
  | jobNotFound (detail : String)
  /-- No preemption strategy has this name. -/
  | strategyNotFound (detail : String)
  /-- No executor is registered for this job type. -/
  | executorNotFound (detail : String)
  /-- A collaborator is missing or cannot answer now. -/
  | unavailable (detail : String)
  /-- A part of the work failed and the rest was done. -/
  | partialFailure (detail : String)
  /-- The request contradicts the present state. -/
  | conflict (detail : String)
  /-- A project has no room left, or none at all. -/
  | quotaExceeded (detail : String)
  /-- An executor could not run a job. -/
  | execution (detail : String)
  /-- The metrics backend failed. -/
  | metrics (detail : String)
  /-- The cluster interface failed. -/
  | cluster (detail : String)
  /-- The work was called off. -/
  | cancelled (detail : String)
  /-- Reading or writing a file failed. -/
  | io (detail : String)
  deriving DecidableEq, Repr, Inhabited

namespace Error

/-- The full text of an error: what kind it is, then the detail. -/
def message : Error → String
  | configuration d => "Configuration error: " ++ d
  | jobNotFound d => "Job not found: " ++ d
  | strategyNotFound d => "Strategy not found: " ++ d
  | executorNotFound d => "Executor not found for job type: " ++ d
  | unavailable d => "Unavailable: " ++ d
  | partialFailure d => "Partial failure: " ++ d
  | conflict d => "Conflict: " ++ d
  | quotaExceeded d => "Quota exceeded: " ++ d
  | execution d => "Execution error: " ++ d
  | metrics d => "Metrics error: " ++ d
  | cluster d => "Cluster error: " ++ d
  | cancelled d => "Cancelled: " ++ d
  | io d => "IO error: " ++ d

/-- The name of the kind of an error. -/
def kind : Error → String
  | configuration _ => "Config"
  | jobNotFound _ => "JobNotFound"
  | strategyNotFound _ => "StrategyNotFound"
  | executorNotFound _ => "ExecutorNotFound"
  | unavailable _ => "Unavailable"
  | partialFailure _ => "PartialFailure"
  | conflict _ => "Conflict"
  | quotaExceeded _ => "QuotaExceeded"
  | execution _ => "Execution"
  | metrics _ => "Metrics"
  | cluster _ => "Cluster"
  | cancelled _ => "Cancelled"
  | io _ => "Io"

/-- The error of a kind that has this name, with a detail. -/
def ofKind? (name detail : String) : Option Error :=
  [configuration, jobNotFound, strategyNotFound, executorNotFound, unavailable, partialFailure,
    conflict, quotaExceeded, execution, metrics, cluster, cancelled, io].findSome? fun e =>
      if (e detail).kind = name then some (e detail) else none

/-- The error says that a job, a strategy or an executor is unknown. -/
def isNotFound : Error → Bool
  | jobNotFound _ | strategyNotFound _ | executorNotFound _ => true
  | _ => false

end Error

/-- The operations that bounded arithmetic checks. -/
inductive ArithmeticOp where
  | add
  | subtract
  | multiply
  deriving DecidableEq, Repr

/-- What ends an operation without any answer. -/
inductive Fault where
  /-- A result does not fit the width of its operands. -/
  | overflow (op : ArithmeticOp)
  /-- A timer was asked to tick every zero seconds. -/
  | zeroPeriod
  /-- A timer was asked to tick later than the clock of the machine can show. -/
  | tickOutOfRange
  /-- A date lies before the first representable one. -/
  | dateOutOfRange
  deriving DecidableEq, Repr

def Fault.message : Fault → String
  | .overflow .add => "attempt to add with overflow"
  | .overflow .subtract => "attempt to subtract with overflow"
  | .overflow .multiply => "attempt to multiply with overflow"
  | .zeroPeriod => "`period` must be non-zero."
  | .tickOutOfRange => "overflow when adding duration to instant"
  | .dateOutOfRange => "`DateTime - TimeDelta` overflowed"

/-- Why an operation gave no answer: it reported an error, or it broke off. -/
inductive Failure where
  | error (e : Error)
  | fault (f : Fault)
  deriving DecidableEq, Repr

instance : Inhabited Failure := ⟨.error default⟩

end GpuCluster
