import GpuCluster.Action
import GpuCluster.Usage.Snapshot

/-!
# Usage tables

* `Usage.Store σ` : what a place that keeps usage records offers;
* `Usage.Tables` : snapshots in the order of storing, numbered from one, and one summary per job;
* `Tables.ofJob` : the snapshots of a job by time, then by number; `Tables.page` cuts them;
* `Store.tables`, `Store.within` : the store in memory, a store in a part of the state.
-/

namespace GpuCluster.Usage

/-- What a place that keeps usage records offers. -/
structure Store (σ : Type) where
  insert : List Snapshot → Action σ Unit
  /-- Some snapshots of a job: at most so many, after so many. -/
  page : JobId → Int64 → Int64 → Action σ Page
  /-- All snapshots of a job. -/
  ofJob : JobId → Action σ (List Snapshot)
  summary? : JobId → Action σ (Option Summary)
  /-- Keep a summary, in place of the one before. -/
  putSummary : Summary → Action σ Unit
  /-- Drop the snapshots before a time and tell how many there were. -/
  dropBefore : Instant → Action σ Nat

structure Tables where
  snapshots : List Snapshot := []
  summaries : List Summary := []
  /-- The number given last. -/
  lastId : Nat := 0
  deriving Inhabited

namespace Tables

/-- The snapshots with the numbers after `last`. -/
def numbered (last : Nat) : List Snapshot → List Snapshot
  | [] => []
  | s :: rest => { s with id := last + 1 } :: numbered (last + 1) rest

@[simp] theorem length_numbered (last : Nat) (batch : List Snapshot) :
    (numbered last batch).length = batch.length := by
  induction batch generalizing last with
  | nil => rfl
  | cons s rest ih => simp [numbered, ih]

/-- The numbers follow on the last one without a gap. -/
theorem map_id_numbered (last : Nat) (batch : List Snapshot) :
    (numbered last batch).map (·.id) = List.range' (last + 1) batch.length := by
  induction batch generalizing last with
  | nil => rfl
  | cons s rest ih => simp [numbered, ih, List.range'_succ]

/-- Add snapshots at the end. -/
def insert (t : Tables) (batch : List Snapshot) : Tables :=
  { t with snapshots := t.snapshots ++ numbered t.lastId batch, lastId := t.lastId + batch.length }

/-- The order of a listing: by time, then by number. -/
def listedBefore (a b : Snapshot) : Bool :=
  a.timestamp < b.timestamp || (a.timestamp == b.timestamp && a.id ≤ b.id)

/-- All snapshots of a job, in the order of a listing. -/
def ofJob (t : Tables) (id : JobId) : List Snapshot :=
  (t.snapshots.filter (·.jobId == id)).mergeSort listedBefore

theorem mem_ofJob {t : Tables} {id : JobId} {s : Snapshot} :
    s ∈ t.ofJob id ↔ s ∈ t.snapshots ∧ s.jobId = id := by
  simp [ofJob, List.mem_mergeSort, List.mem_filter]

/-- The size of a page when none is asked for. -/
def defaultPageSize : Nat := 200

/-- The size of a page; a size of zero or less stands for none. -/
def pageSize (limit : Int64) : Nat := if 0 < limit then limit.toInt.toNat else defaultPageSize

/-- The snapshots of a job after the first `offset` ones, at most `limit` of them. -/
def page (t : Tables) (id : JobId) (limit offset : Int64) : Page :=
  let rows := t.ofJob id
  { snapshots := (rows.drop offset.toInt.toNat).take (pageSize limit), total := rows.length }

@[simp] theorem total_page (t : Tables) (id : JobId) (limit offset : Int64) :
    (t.page id limit offset).total = (t.ofJob id).length := rfl

def summary? (t : Tables) (id : JobId) : Option Summary := t.summaries.find? (·.jobId == id)

/-- Keep a summary, in place of the one of the same job. -/
def putSummary (t : Tables) (s : Summary) : Tables :=
  { t with summaries := t.summaries.filter (fun old => !(old.jobId == s.jobId)) ++ [s] }

/-- Drop the snapshots before a time. -/
def dropBefore (t : Tables) (cutoff : Instant) : Tables :=
  { t with snapshots := t.snapshots.filter fun s => decide (cutoff ≤ s.timestamp) }

end Tables

namespace Store

variable {σ τ : Type}

def tables : Store Tables where
  insert batch := modify (·.insert batch)
  page id limit offset := return (← get).page id limit offset
  ofJob id := return (← get).ofJob id
  summary? id := return (← get).summary? id
  putSummary s := modify (·.putSummary s)
  dropBefore cutoff := do
    let before ← get
    let after := before.dropBefore cutoff
    set after
    return before.snapshots.length - after.snapshots.length

/-- A store that lives in a part of the state. -/
def within (part : Lens σ τ) (store : Store τ) : Store σ where
  insert batch := (store.insert batch).zoom part
  page id limit offset := (store.page id limit offset).zoom part
  ofJob id := (store.ofJob id).zoom part
  summary? id := (store.summary? id).zoom part
  putSummary s := (store.putSummary s).zoom part
  dropBefore cutoff := (store.dropBefore cutoff).zoom part

end Store

end GpuCluster.Usage
