import GpuCluster.Action
import GpuCluster.Job.Basic
import GpuCluster.Quota.Basic

/-!
# The book of quotas

`Quota.Store σ` keeps one quota per project. On top of it, each operation reads a quota, changes
it and writes it back; a refused one writes nothing.

* `Quota.Store.table` : the store in memory;
* `setTotal`, `available`, `reserve`, `release` : the operations for a project;
* `reserveFor`, `releaseFor` : the same for a job, nothing for a job without units.
-/

namespace GpuCluster.Quota

/-- What a place that keeps quotas offers. -/
structure Store (σ : Type) where
  get : String → Action σ (Option Quota)
  put : Quota → Action σ Unit

namespace Store

variable {σ τ : Type}

def table : Store (Bindings Quota) where
  get project := fun t => .ok (t.get? project) t
  put q := fun t => .ok () (t.set q.projectId q)

/-- A store that lives in a part of the state. -/
def within (part : Lens σ τ) (store : Store τ) : Store σ where
  get project := (store.get project).zoom part
  put q := (store.put q).zoom part

/-- The quota of a project that must have one. -/
def load (store : Store σ) (project : String) : Action σ Quota := do
  match ← store.get project with
  | some q => return q
  | none => Action.fail (.noQuota project)

/-- Set what a project may use. A total below what it uses is refused. -/
def setTotal (store : Store σ) (project : String) (total : UInt32) : Action σ Unit := do
  let q := (← store.get project).getD (.new project 0)
  if total < q.used then Action.fail (.quotaInUse project q.used total)
  else store.put { q with total := total }

/-- The units that are free for a project. -/
def available (store : Store σ) (project : String) : Action σ UInt32 := do
  return (← store.load project).available

def reserve (store : Store σ) (project : String) (units : UInt32) : Action σ Unit := do
  let q ← store.load project
  match q.reserve units with
  | .ok q => store.put q
  | .error f => throw f

def release (store : Store σ) (project : String) (units : UInt32) : Action σ Unit := do
  let q ← store.load project
  store.put (q.release units)

def reserveFor (store : Store σ) (j : Job) : Action σ Unit :=
  if j.mpsUnits = 0 then pure () else store.reserve j.projectId j.mpsUnits

/-- Give the units of a job back. -/
def releaseFor (store : Store σ) (j : Job) : Action σ Unit :=
  if j.mpsUnits = 0 then pure () else store.release j.projectId j.mpsUnits

end Store

end GpuCluster.Quota
