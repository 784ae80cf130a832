import GpuCluster.Telemetry.Basic
import GpuCluster.Usage.Account

/-!
# Summaries and retention

* `summarizeJob` : give a job its summary, unless it has one or nothing was sampled;
* `summarize` : a pass over all jobs that have ended;
* `cleanUp` : drop the snapshots that are older than the retention.
-/

namespace GpuCluster.Telemetry

variable {σ : Type}

/-- Give a job its summary; answer whether it gained one. A job whose snapshots cannot be read is
passed over. -/
def summarizeJob (t : Telemetry σ) (id : JobId) : Action σ Bool := do
  match ← t.usage.summary? id with
  | some _ => return false
  | none => do
    match ← Action.attempt (t.usage.ofJob id) with
    | .error _ => return false
    | .ok rows => do
      let now ← t.clock
      match ← Action.ofChecked (Usage.summarize id rows now) with
      | none => return false
      | some summary => do
        t.usage.putSummary summary
        return true

/-- Give some jobs their summaries; answer how many gained one. -/
def summarizeJobs (t : Telemetry σ) : List Job → Action σ Nat
  | [] => return 0
  | j :: rest => do
    if ← t.calledOff then Action.fail .passCalledOff
    else do
      let gained ← t.summarizeJob j.id
      return (if gained then 1 else 0) + (← summarizeJobs t rest)

/-- Give all jobs that have ended their summaries. -/
def summarize (t : Telemetry σ) : Action σ Nat := do
  t.summarizeJobs (← t.jobs.withStatus JobStatus.terminal)

/-- Drop the snapshots older than an age; answer how many there were. -/
def cleanUp (t : Telemetry σ) (retention : Duration) : Action σ Nat := do
  let age ← Action.ofExcept retention.asAge
  let cutoff ← Action.ofChecked ((← t.clock).minus age)
  t.usage.dropBefore cutoff

end GpuCluster.Telemetry
