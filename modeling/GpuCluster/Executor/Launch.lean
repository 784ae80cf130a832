import GpuCluster.Arithmetic
import GpuCluster.Job.Basic
import GpuCluster.Mps

/-!
# What is launched for a job

`Launch.forJob` turns a job and a command line into a program with arguments and an environment.
The environment has layers, each over the one before: that of the executor, that of the job, the
GPUs, the thread share, and the identity of the job.
-/

namespace GpuCluster

namespace Error

/-- There is nothing to run. -/
def noCommand (id : JobId) : Error := .execution ("job " ++ id.toText ++ " has no command")

end Error

/-- A program to run, with its arguments, its environment and its directory. -/
structure Launch where
  program : String
  arguments : List String
  environment : Bindings String
  directory : Option String
  deriving DecidableEq, Repr

namespace Launch

/-- The variable that names the GPUs of a job. -/
def devicesVariable : String := "CUDA_VISIBLE_DEVICES"

def jobVariable : String := "GPUSCHED_JOB_ID"

/-- The numbers of `n` GPUs from zero on, with commas between them. -/
def deviceList (n : UInt32) : String :=
  ",".intercalate ((List.range n.toNat).map fun i => toString i)

/-- The thread share of some units in percent, at most the whole. -/
def threadShare (units : UInt32) : UInt32 :=
  min (Saturating.mul32 units 100 / Mps.unitsPerGpu) 100

/-- The settings of the thread share of a job. -/
def shareOf (j : Job) : Mps.Limits :=
  { threadPercentage := Int32.ofNat (threadShare j.mpsUnits).toNat, memoryMegabytes := 0 }

/-- The variables that follow from the resources of a job. -/
def resourceVariables (j : Job) : List (String × String) :=
  (if 0 < j.requiredGpu then [(devicesVariable, deviceList j.requiredGpu)] else []) ++
  (if 0 < j.mpsUnits then (shareOf j).environment else []) ++
  [(jobVariable, j.id.toText)]

/-- The environment of a job, `outer` being that of the executor. -/
def environmentOf (outer : Bindings String) (j : Job) : Bindings String :=
  (j.env.layer outer).setAll (resourceVariables j)

/-- What is launched for a job by this command line. -/
def forJob (outer : Bindings String) (directory : Option String) (j : Job)
    (commandLine : List String) : Except Error Launch :=
  match commandLine with
  | [] => .error (.noCommand j.id)
  | program :: arguments => do
    if 0 < j.mpsUnits then (shareOf j).validate
    .ok ⟨program, arguments, environmentOf outer j, directory⟩

/-- The character that no argument and no variable can carry. -/
def hasNul (s : String) : Bool := s.toList.any (· = '\x00')

/-- Some text of the launch carries that character. -/
def mentionsNul (l : Launch) : Bool :=
  hasNul l.program || l.arguments.any hasNul ||
    l.environment.entries.any fun e => hasNul e.1 || hasNul e.2

end Launch

end GpuCluster
