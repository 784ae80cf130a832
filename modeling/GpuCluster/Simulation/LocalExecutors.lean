import GpuCluster.Simulation.Programs

/-!
# Executors on the simulated machine

* `LocalExecutors` : the state of an executor for plain jobs and of one for jobs with replicas;
* `LocalExecutors.plainExecutor`, `LocalExecutors.replicaExecutor` : the two executors;
* `LocalExecutors.registryOn` : both on a machine with their default settings, as a daemon has them;
  `LocalExecutors.registry` : both on the simulated machine;
* `LocalExecutors.settle`, `LocalExecutors.settleAll` : let processes end.
-/

namespace GpuCluster.Simulation

structure LocalExecutors where
  plain : Process.Table := .empty
  mpi : Mpi.State := {}

namespace LocalExecutors

def plainPart : Lens LocalExecutors Process.Table :=
  ⟨LocalExecutors.plain, fun x w => { w with plain := x }⟩

def mpiPart : Lens LocalExecutors Mpi.State :=
  ⟨LocalExecutors.mpi, fun x w => { w with mpi := x }⟩

/-- The processes of the launcher. -/
def launcherPart : Lens LocalExecutors Process.Table := mpiPart.comp Mpi.State.processesPart

/-- The executor for plain jobs on a machine. -/
def plainExecutorOn (m : Machine) (s : Process.Settings) : Executor LocalExecutors :=
  (Process.executor m s).within plainPart

/-- The executor for jobs with several replicas on a machine. -/
def replicaExecutorOn (m : Machine) (s : Mpi.Settings) : Executor LocalExecutors :=
  (Mpi.executor m s).within mpiPart

/-- Both executors, each for the type of its jobs, as a daemon has them on a machine, whose
hostfiles go to a directory. -/
def registryOn (m : Machine) (directory : String) : Executor.Registry (Executor LocalExecutors) :=
  (Executor.Registry.empty.register Job.batchType (plainExecutorOn m {})).register Job.mpiType
    (replicaExecutorOn m { directory := directory })

def plainExecutor (s : Process.Settings) : Executor LocalExecutors :=
  plainExecutorOn Programs.machine s

/-- The executor for jobs with several replicas. -/
def replicaExecutor (s : Mpi.Settings) : Executor LocalExecutors :=
  replicaExecutorOn Programs.machine s

def registry : Executor.Registry (Executor LocalExecutors) :=
  registryOn Programs.machine Programs.place

/-- Let something happen to the processes of a job. -/
def alter (id : JobId) (f : Process → Process) (w : LocalExecutors) : LocalExecutors :=
  plainPart.set (w.plain.alter id f) (launcherPart.set (w.mpi.processes.alter id f) w)

/-- Let the processes of a job end, and collect their output. -/
def settle (id : JobId) (w : LocalExecutors) : LocalExecutors := w.alter id .settle

/-- Let all processes end that ever do, and collect their output. -/
def settleAll (w : LocalExecutors) : LocalExecutors :=
  plainPart.set w.plain.settleAll (launcherPart.set w.mpi.processes.settleAll w)

/-- The number of processes that are tracked for plain jobs. -/
def tracked (w : LocalExecutors) : Nat := w.plain.size

/-- The content of the hostfile of a job. -/
def hostfile? (s : Mpi.Settings) (id : JobId) (w : LocalExecutors) : Option String :=
  w.mpi.hostfile? (Mpi.hostfilePath s id)

/-- Write the hostfile of a job and answer its path. -/
def writeHostfile (s : Mpi.Settings) (j : Job) : Action LocalExecutors String :=
  (Mpi.writeHostfile Programs.machine s j).zoom mpiPart

end LocalExecutors

end GpuCluster.Simulation
