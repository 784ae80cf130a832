import GpuCluster.Proofs.Job.Archive

/-!
# Jobs that leave running

`Job.Archive.Departs now a xs b` says that `b` comes from `a` by letting jobs leave running one
after the other. Preemption and reconciling change the archive in no other way.
-/

namespace GpuCluster.Job

/-- How a job leaves running. -/
structure Departure where
  id : JobId
  status : JobStatus
  reason : Option String

namespace Archive

/-- Jobs leave running, one after the other. -/
inductive Departs (now : Instant) : Archive → List Departure → Archive → Prop
  | nil (a : Archive) : Departs now a [] a
  | cons {a b : Archive} {x : Departure} {xs : List Departure} {j : Job}
      (found : a.find? x.id = some j) (running : j.status = .running)
      (rest : Departs now (a.modify x.id (Job.advance now x.status x.reason)) xs b) :
      Departs now a (x :: xs) b

variable {now : Instant} {a b c : Archive} {x : Departure} {xs ys : List Departure}

theorem Departs.indexed (h : Departs now a xs b) (ha : a.Indexed) : b.Indexed := by
  induction h with
  | nil => exact ha
  | cons _ _ _ ih => exact ih (ha.modify fun j => id_advance ..)

theorem Departs.ids (h : Departs now a xs b) (ha : a.Indexed) :
    b.toList.map (·.id) = a.toList.map (·.id) := by
  induction h with
  | nil => rfl
  | cons _ _ _ ih =>
    rw [ih (ha.modify fun _ => id_advance ..), ha.ids_modify fun _ => id_advance ..]

/-- A job that is not running is left as it is. -/
theorem Departs.mem_of_not_running {j : Job} (h : Departs now a xs b) (ha : a.Indexed)
    (hj : j ∈ a.toList) (hs : j.status ≠ .running) : j ∈ b.toList := by
  induction h with
  | nil => exact hj
  | cons found running _ ih =>
    refine ih (ha.modify fun _ => id_advance ..) (ha.mem_modify.2 ⟨j, hj, if_neg ?_⟩)
    intro hid
    rw [← hid, ha.find?_of_mem hj] at found
    obtain rfl := Option.some.inj found
    exact hs running

end Archive

end GpuCluster.Job
