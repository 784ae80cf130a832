import GpuCluster.Executor.Hostfile
import GpuCluster.Executor.Process

/-!
# Jobs with several replicas

The executor writes a hostfile for the job and starts a launcher with it; the launcher runs as a
local process.

* `Mpi.State` : the processes of the launcher and the hostfiles;
* `Mpi.commandLine` : the launcher, the number of processes, the hostfile, then the command;
* `Mpi.executor` : the executor over that state.
-/

namespace GpuCluster

namespace Error

/-- The job has too few replicas. -/
def tooFewReplicas (id : JobId) (replicas : UInt32) : Error :=
  .execution ("MPI jobs require at least 2 replicas, job " ++ id.toText ++ " has " ++
    toString replicas.toNat)

end Error

namespace Mpi

structure Settings where
  /-- The launcher. -/
  launcher : String := "mpirun"
  /-- Where hostfiles are written. -/
  directory : String
  slotsPerReplica : UInt32 := 1

/-- The processes of the launcher, and the hostfiles by path. -/
structure State where
  processes : Process.Table := .empty
  hostfiles : List (String × String) := []
  deriving Inhabited

namespace State

/-- The processes as a part of the state. -/
def processesPart : Lens State Process.Table :=
  ⟨State.processes, fun t s => { s with processes := t }⟩

/-- The content of the hostfile at a path. -/
def hostfile? (s : State) (path : String) : Option String :=
  (s.hostfiles.find? (·.1 == path)).map (·.2)

def writeHostfile (s : State) (path content : String) : State :=
  { s with hostfiles := s.hostfiles.filter (fun f => !(f.1 == path)) ++ [(path, content)] }

/-- Remove a hostfile, if it is there. -/
def removeHostfile (s : State) (path : String) : State :=
  { s with hostfiles := s.hostfiles.filter fun f => !(f.1 == path) }

end State

/-- The path of the hostfile of a job. -/
def hostfilePath (s : Settings) (id : JobId) : String :=
  s.directory ++ "/" ++ id.toText ++ ".hostfile"

/-- Remove the hostfile of a job, if the machine lets it be removed. -/
def removeHostfile (m : Machine) (s : Settings) (id : JobId) : Action State Unit :=
  modify fun t =>
    if m.removes (hostfilePath s id) then t.removeHostfile (hostfilePath s id) else t

/-- Write the hostfile of a job and answer its path. -/
def writeHostfile (m : Machine) (s : Settings) (j : Job) : Action State String := do
  let path := hostfilePath s j.id
  if m.directoryExists s.directory then do
    modify (·.writeHostfile path (Hostfile.render (Hostfile.ofJob j s.slotsPerReplica)))
    return path
  else Action.fail (.io Machine.notFoundText)

/-- The number of processes of a job. -/
def processCount (s : Settings) (j : Job) : UInt32 := Saturating.mul32 j.replicas s.slotsPerReplica

/-- The command line that runs a job. -/
def commandLine (s : Settings) (j : Job) (hostfile : String) : List String :=
  [s.launcher, "-np", toString (processCount s j).toNat, "--hostfile", hostfile] ++ j.command

def launcherSettings : Process.Settings := { jobTypes := [Job.mpiType] }

/-- Write the hostfile of a job and start the launcher. -/
def execute (m : Machine) (s : Settings) (j : Job) : Action State Unit :=
  if j.replicas < 2 then Action.fail (.tooFewReplicas j.id j.replicas)
  else if j.command = [] then Action.fail (.noCommand j.id)
  else do
    let hostfile ← writeHostfile m s j
    (Process.launch m launcherSettings j (commandLine s j hostfile)).zoom State.processesPart

/-- Jobs with several replicas. A hostfile goes when its job has been stopped or forgotten. -/
def executor (m : Machine) (s : Settings) : Executor State :=
  let launcher := (Process.executor m launcherSettings).within State.processesPart
  { name := "mpi"
    supports := fun jobType => jobType == Job.mpiType
    execute := execute m s
    cancel := fun id => do
      launcher.cancel id
      removeHostfile m s id
    status := launcher.status
    logs := launcher.logs
    release := fun id => do
      launcher.release id
      removeHostfile m s id }

end Mpi

end GpuCluster
