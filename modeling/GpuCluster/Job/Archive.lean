import Std.Data.HashMap
import GpuCluster.Job.Basic

/-!
# The archive of jobs

`Job.Archive` keeps job records in order of creation, with an index from identities to slots.

* `add` : a new record at the end, refused when the identity is taken;
* `find?` : the record of an identity, through the index;
* `record`, `recordIf` : a new status for one record, the second only from an expected status;
* `withStatus` : the records of some statuses, in order of creation.
-/

namespace GpuCluster

namespace Error

/-- No job has this identity. -/
def noSuchJob (id : JobId) : Error := .jobNotFound id.toText

/-- The identity is taken. -/
def jobExists (id : JobId) : Error := .conflict ("job " ++ id.toText ++ " already exists")

end Error

/-- Job records in order of creation. -/
structure Job.Archive where
  records : Array Job
  /-- The slot of each stored identity. -/
  slots : Std.HashMap JobId Nat
  deriving Inhabited

namespace Job.Archive

def empty : Archive := ⟨#[], ∅⟩

def size (a : Archive) : Nat := a.records.size

def toList (a : Archive) : List Job := a.records.toList

def find? (a : Archive) (id : JobId) : Option Job :=
  match a.slots[id]? with
  | some slot => a.records[slot]?
  | none => none

/-- Add a record at the end. -/
def add (a : Archive) (j : Job) : Except Error Archive :=
  if a.slots.contains j.id then .error (.jobExists j.id)
  else .ok ⟨a.records.push j, a.slots.insert j.id a.records.size⟩

/-- The records whose status is one of `statuses`. -/
def withStatus (a : Archive) (statuses : List JobStatus) : List Job :=
  a.toList.filter fun j => statuses.contains j.status

/-- Change the record in the slot of an identity. -/
def modify (a : Archive) (id : JobId) (change : Job → Job) : Archive :=
  match a.slots[id]? with
  | some slot => { a with records := a.records.modify slot change }
  | none => a

def record (a : Archive) (now : Instant) (id : JobId) (status : JobStatus)
    (reason : Option String) : Except Error Archive :=
  match a.find? id with
  | none => .error (.noSuchJob id)
  | some _ => .ok (a.modify id (Job.advance now status reason))

/-- Record a status if the present one is as expected, and tell whether it was. -/
def recordIf (a : Archive) (now : Instant) (id : JobId) (expected status : JobStatus)
    (reason : Option String) : Except Error (Bool × Archive) :=
  match a.find? id with
  | none => .error (.noSuchJob id)
  | some j =>
    if j.status = expected then .ok (true, a.modify id (Job.advance now status reason))
    else .ok (false, a)

theorem toList_add {a b : Archive} {j : Job} (h : a.add j = .ok b) :
    b.toList = a.toList ++ [j] := by
  unfold add at h
  split at h
  · simp at h
  · simp only [Except.ok.injEq] at h
    subst h
    simp [toList]

@[simp] theorem size_modify (a : Archive) (id : JobId) (change : Job → Job) :
    (a.modify id change).size = a.size := by
  unfold modify
  split <;> simp [size]

end Job.Archive

end GpuCluster
