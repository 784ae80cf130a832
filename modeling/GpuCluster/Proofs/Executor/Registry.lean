import GpuCluster.Executor.Basic
import GpuCluster.Proofs.Action

/-!
# Registries over a part of a state

* `Registry.find?_register`, `Registry.find?_map` : what is registered for a type;
* `Registry.execute_of_find?`, ... : a job goes to the executor of its type;
* `Registry.execute_within`, `Registry.status_within`, `Registry.release_within` : executors that
  live in a part of a state act on that part only.
-/

namespace GpuCluster.Executor.Registry

variable {α β σ τ : Type}

theorem find?_register (r : Registry α) (jobType other : String) (x : α) :
    (r.register jobType x).find? other = if jobType = other then some x else r.find? other :=
  Bindings.get?_set ..

theorem find?_map (f : α → β) (r : Registry α) (jobType : String) :
    (r.map f).find? jobType = (r.find? jobType).map f := by
  unfold find? map Bindings.get?
  induction r.byType.entries with
  | nil => rfl
  | cons e rest ih =>
    rw [List.map_cons, List.find?_cons, List.find?_cons]
    cases e.1 == jobType with
    | true => rfl
    | false => exact ih

variable {r : Registry (Executor τ)} {x : Executor τ} {j : Job}

theorem execute_of_find? (h : r.find? j.jobType = some x) : r.execute j = x.execute j := by
  rw [execute, forJob, h]
  rfl

theorem status_of_find? (h : r.find? j.jobType = some x) : r.status j = x.status j.id := by
  rw [status, forJob, h]
  rfl

theorem release_of_find? (h : r.find? j.jobType = some x) : r.release j = x.release j.id := by
  rw [release, forJob, h]
  rfl

theorem execute_of_none (h : r.find? j.jobType = none) :
    r.execute j = Action.fail (.executorNotFound j.jobType) := by
  rw [execute, forJob, h]
  rfl

theorem status_of_none (h : r.find? j.jobType = none) :
    r.status j = Action.fail (.executorNotFound j.jobType) := by
  rw [status, forJob, h]
  rfl

theorem release_of_none (h : r.find? j.jobType = none) :
    r.release j = Action.fail (.executorNotFound j.jobType) := by
  rw [release, forJob, h]
  rfl

/-! ## In a part of a state -/

variable {part : Lens σ τ}

theorem execute_within (hp : part.Lawful) (r : Registry (Executor τ)) (j : Job) :
    (r.map (Executor.within part)).execute j = (r.execute j).zoom part := by
  cases h : r.find? j.jobType with
  | none =>
    rw [execute_of_none h, Action.zoom_fail hp, execute_of_none (by rw [find?_map, h]; rfl)]
  | some x =>
    rw [execute_of_find? h, execute_of_find? (x := x.within part) (by rw [find?_map, h]; rfl)]
    rfl

theorem status_within (hp : part.Lawful) (r : Registry (Executor τ)) (j : Job) :
    (r.map (Executor.within part)).status j = (r.status j).zoom part := by
  cases h : r.find? j.jobType with
  | none =>
    rw [status_of_none h, Action.zoom_fail hp, status_of_none (by rw [find?_map, h]; rfl)]
  | some x =>
    rw [status_of_find? h, status_of_find? (x := x.within part) (by rw [find?_map, h]; rfl)]
    rfl

theorem release_within (hp : part.Lawful) (r : Registry (Executor τ)) (j : Job) :
    (r.map (Executor.within part)).release j = (r.release j).zoom part := by
  cases h : r.find? j.jobType with
  | none =>
    rw [release_of_none h, Action.zoom_fail hp, release_of_none (by rw [find?_map, h]; rfl)]
  | some x =>
    rw [release_of_find? h, release_of_find? (x := x.within part) (by rw [find?_map, h]; rfl)]
    rfl

end GpuCluster.Executor.Registry
