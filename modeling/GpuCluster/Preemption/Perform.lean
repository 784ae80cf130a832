import GpuCluster.Job.Store
import GpuCluster.Monitor
import GpuCluster.Preemption.Strategy

/-!
# Carrying out a decision

A decision is checked as a whole and then written victim by victim.

* `Evictor` : what stops the workload of a victim;
* `checkVictims` : every victim is known and running;
* `writeVictims` : mark each victim that is still running, and evict it;
* `perform` : decide, check, write;
* `makeRoom` : the same, but only when the cluster has no room.
-/

namespace GpuCluster

namespace Error

/-- The victim is not running when the decision is checked. -/
def notPreemptible (id : JobId) (status : JobStatus) : Error :=
  .conflict ("job " ++ id.toText ++ " is " ++ status.name ++ ", only RUNNING jobs can be preempted")

end Error

namespace Preemption

variable {σ : Type}

/-- Stops the workload of a job, within a grace period. -/
abbrev Evictor (σ : Type) := Job → Option Duration → Action σ Unit

/-- The records of the victims, all of them running. -/
def checkVictims (store : Job.Store σ) : List JobId → Action σ (List Job)
  | [] => return []
  | id :: rest => do
    let j ← store.find id
    if j.status ≠ .running then Action.fail (.notPreemptible id j.status)
    else return j :: (← checkVictims store rest)

/-- Stop the workload of a victim. An evictor that fails is not heard. -/
def evict (evictor : Option (Evictor σ)) (j : Job) (grace : Option Duration) : Action σ Unit :=
  match evictor with
  | none => pure ()
  | some stop => Action.tolerate (stop j grace)

/-- Mark the victims that are still running as preempted and evict them; answer who they are. -/
def writeVictims (store : Job.Store σ) (evictor : Option (Evictor σ)) (now : Instant)
    (d : Decision) : List Job → Action σ (List JobId)
  | [] => return []
  | j :: rest => do
    let moved ← store.recordIf now j.id .running .preempted (some d.reason)
    if moved then do
      evict evictor j d.gracePeriod
      return j.id :: (← writeVictims store evictor now d rest)
    else writeVictims store evictor now d rest

/-- Let the active strategy decide and carry the decision out. Nothing is written unless every
victim is running; a victim that stops running in between is left out of the answer. -/
def perform (strategies : Strategies (Strategy σ)) (store : Job.Store σ)
    (evictor : Option (Evictor σ)) (now : Instant) (q : Requirement) : Action σ Decision := do
  let d ← strategies.decide q
  if d.isEmpty then return d
  else do
    let victims ← checkVictims store d.victims
    return { d with victims := ← writeVictims store evictor now d victims }

/-- Make room for a requirement, if the cluster has none. -/
def makeRoom (shortage : Action σ Bool) (strategies : Strategies (Strategy σ))
    (store : Job.Store σ) (evictor : Option (Evictor σ)) (now : Instant) (q : Requirement) :
    Action σ (List JobId) := do
  if ← shortage then return (← perform strategies store evictor now q).victims
  else return []

end Preemption

end GpuCluster
