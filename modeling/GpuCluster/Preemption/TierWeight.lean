import GpuCluster.Preemption.Cumulative

/-!
# Victims by tier

A job may only push out jobs of a strictly lower tier, whatever their numeric priorities.

* `outranks` : the requester's tier is above the victim's;
* `outranked` : the running jobs that a job may push out, the least important first;
* `mayPreempt` : whether one job may push out another, running one;
* `takeUntil` : jobs of a line until enough GPUs are free;
* `tierWeight` : the strategy.
-/

namespace GpuCluster

namespace Error

/-- The job is not running. -/
def notRunning (j : Job) : Error :=
  .conflict ("job " ++ j.id.toText ++ " is " ++ j.status.name ++ ", not RUNNING")

end Error

namespace Preemption

/-- The requester's tier is above the victim's. -/
def outranks (requester victim : Job) : Bool := victim.tier.weight < requester.tier.weight

/-- Which of two victims goes first: by tier, then by priority, then the newest. -/
def compareByTier (a b : Job) : Ordering :=
  (Ord.compare a.tier.weight b.tier.weight).then
    ((Ord.compare a.priorityValue.toInt b.priorityValue.toInt).then
      (Instant.compare b.createdAt a.createdAt))

/-- Jobs in the order they go; jobs that compare as equal keep their order. -/
def sortByTier (jobs : List Job) : List Job :=
  jobs.mergeSort fun a b => (compareByTier a b).isLE

variable {σ : Type}

/-- The running jobs that a job may push out, in the order they go. -/
def outranked (store : Job.Store σ) (requester : Job) : Action σ (List Job) := do
  let running ← store.withStatus [.running]
  return sortByTier (running.filter fun j => !(j.id == requester.id) && outranks requester j)

/-- Whether a job may push out a running one. -/
def mayPreempt (store : Job.Store σ) (victim requester : JobId) : Action σ Bool := do
  let v ← store.find victim
  if v.status ≠ .running then Action.fail (.notRunning v)
  else do
    let r ← store.find requester
    return outranks r v

/-- Jobs of a line until the GPUs that become free are enough. -/
def takeUntil (needed : UInt64) : UInt64 → List Job → Except Fault (List Job)
  | _, [] => .ok []
  | freed, j :: rest => do
    if needed ≤ freed then .ok []
    else
      let freed ← Checked.addU64 freed j.requiredGpu.toUInt64
      let others ← takeUntil needed freed rest
      .ok (j :: others)

def tierWeightName : String := "priority-weight"

def tierWeightReason : String := "Preempted by higher priority tier"

/-- The strategy over the jobs of a store. Without a requesting job no one goes, and neither for
a job of the low tier. -/
def tierWeight (store : Job.Store σ) (p : Policy) : Strategy σ where
  name := tierWeightName
  decide q :=
    match q.requestedBy with
    | none => return .none q
    | some id => do
      let requester ← store.find id
      if requester.tier = .low then return .none q
      else do
        let line ← outranked store requester
        let victims ← Action.ofChecked (takeUntil (gpusNeeded q).toUInt64 0 line)
        return .of (victims.map (·.id)) tierWeightReason q p

end Preemption

end GpuCluster
