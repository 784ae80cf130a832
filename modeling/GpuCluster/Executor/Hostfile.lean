import GpuCluster.Job.Basic

/-!
# Hostfiles

A hostfile lists the hosts of a job with their slots, one per line.

* `Hostfile.Entry`, `Hostfile.render` : the lines and the text;
* `Hostfile.ofJob` : one host per replica, named after the job.
-/

namespace GpuCluster.Hostfile

/-- A host with its slots. -/
structure Entry where
  hostname : String
  slots : UInt32
  deriving DecidableEq, Repr

def Entry.toLine (e : Entry) : String := e.hostname ++ " slots=" ++ toString e.slots.toNat

/-- The text of a hostfile; there is no newline at its end. -/
def render (entries : List Entry) : String := "\n".intercalate (entries.map Entry.toLine)

def hostOf (j : Job) (replica : Nat) : String := j.name ++ "-worker-" ++ toString replica

/-- One host per replica of a job. -/
def ofJob (j : Job) (slotsPerReplica : UInt32) : List Entry :=
  (List.range j.replicas.toNat).map fun i => ⟨hostOf j i, slotsPerReplica⟩

end GpuCluster.Hostfile
