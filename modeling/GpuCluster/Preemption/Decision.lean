import GpuCluster.Job.Json
import GpuCluster.Time.Duration

/-!
# Preemption decisions

* `Preemption.Policy` : what goes for every decision;
* `Preemption.Decision` : the victims for one requirement and how they are treated;
  `Decision.of` cuts the victims to the limit, `Decision.none` has none.
-/

namespace GpuCluster.Preemption

/-- What goes for every decision. -/
structure Policy where
  /-- The time a victim is given to shut down. -/
  gracePeriod : Duration := .ofSeconds 120
  checkpoint : Bool := true
  /-- The largest number of victims of one decision. -/
  maxVictims : Nat := 5
  notifyUsers : Bool := true
  deriving DecidableEq, Repr, Inhabited

/-- The victims for one requirement, in the order they go. -/
structure Decision where
  victims : List JobId := []
  reason : String := ""
  requestedBy : Option JobId := .none
  gracePeriod : Option Duration := .none
  checkpoint : Bool := false
  notifyUsers : Bool := false
  deriving DecidableEq, Repr, Inhabited

namespace Decision

/-- The decision for these victims, or for as many of them as the policy allows. -/
def of (victims : List JobId) (reason : String) (q : Requirement) (p : Policy) : Decision where
  victims := victims.take p.maxVictims
  reason := reason
  requestedBy := q.requestedBy
  gracePeriod := some p.gracePeriod
  checkpoint := p.checkpoint
  notifyUsers := p.notifyUsers

/-- The decision that no one goes. -/
def none (q : Requirement) : Decision := { requestedBy := q.requestedBy }

def isEmpty (d : Decision) : Bool := d.victims.isEmpty

def toJson (d : Decision) : Json :=
  .obj [("jobs_to_preempt", .ofList JobId.toJson d.victims), ("reason", .str d.reason),
    ("requested_by", .ofOption JobId.toJson d.requestedBy),
    ("grace_period", .ofOption Duration.toJson d.gracePeriod),
    ("create_checkpoint", .bool d.checkpoint), ("notify_users", .bool d.notifyUsers)]

end Decision

end GpuCluster.Preemption
