import GpuCluster.Action
import GpuCluster.Job.Basic

/-!
# Executors

* `Executor σ` : what runs jobs of some types, over a state `σ`;
* `Executor.Registry` : one executor per job type, the last one registered;
* `Registry.execute`, `Registry.status`, `Registry.release` : hand a job to the executor of its
  type.
-/

namespace GpuCluster

structure Executor (σ : Type) where
  name : String
  supports : String → Bool
  /-- Launch a job. -/
  execute : Job → Action σ Unit
  /-- Stop a launched job. -/
  cancel : JobId → Action σ Unit
  /-- The status of a launched job. -/
  status : JobId → Action σ JobStatus
  /-- The output collected so far. -/
  logs : JobId → Action σ String
  /-- Forget a job that has ended. -/
  release : JobId → Action σ Unit

/-- An executor that lives in a part of the state. -/
def Executor.within {σ τ : Type} (part : Lens σ τ) (x : Executor τ) : Executor σ where
  name := x.name
  supports := x.supports
  execute j := (x.execute j).zoom part
  cancel id := (x.cancel id).zoom part
  status id := (x.status id).zoom part
  logs id := (x.logs id).zoom part
  release id := (x.release id).zoom part

/-- What is registered for each job type. -/
structure Executor.Registry (α : Type) where
  byType : Bindings α
  deriving Inhabited

namespace Executor.Registry

variable {α β σ : Type}

def empty : Registry α := ⟨∅⟩

/-- Register for a type, in place of what was registered before. -/
def register (r : Registry α) (jobType : String) (x : α) : Registry α :=
  ⟨r.byType.set jobType x⟩

def find? (r : Registry α) (jobType : String) : Option α := r.byType.get? jobType

/-- The registered types in order. -/
def types (r : Registry α) : List String := r.byType.names.mergeSort fun a b => a ≤ b

/-- Apply a function to all that is registered. -/
def map (f : α → β) (r : Registry α) : Registry β :=
  ⟨⟨r.byType.entries.map fun e => (e.1, f e.2)⟩⟩

def forJob (r : Registry (Executor σ)) (j : Job) : Action σ (Executor σ) :=
  match r.find? j.jobType with
  | some x => pure x
  | none => Action.fail (.executorNotFound j.jobType)

def execute (r : Registry (Executor σ)) (j : Job) : Action σ Unit := do
  (← r.forJob j).execute j

def status (r : Registry (Executor σ)) (j : Job) : Action σ JobStatus := do
  (← r.forJob j).status j.id

/-- Forget a job that has ended. -/
def release (r : Registry (Executor σ)) (j : Job) : Action σ Unit := do
  (← r.forJob j).release j.id

end Executor.Registry

end GpuCluster
