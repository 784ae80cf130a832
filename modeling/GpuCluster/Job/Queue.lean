import GpuCluster.Job.Basic

/-!
# The queue of waiting jobs

`Job.Queue` hands out the job of the highest tier weight, and of those the one that waits longest.

* `push` : add a job behind all of its tier;
* `peek?`, `pop?` : look at the next job, take it out;
* `Entry.precedes` : the order, by weight and then by arrival.
-/

namespace GpuCluster

/-- A waiting job with its weight and the number of its arrival. -/
structure Job.Entry where
  weight : Nat
  arrival : Nat
  job : Job
  deriving Repr, Inhabited

namespace Job.Entry

/-- The entry is handed out before the other: it weighs more, or as much and came first. -/
def precedes (a b : Entry) : Bool :=
  b.weight < a.weight || (a.weight == b.weight && a.arrival < b.arrival)

/-- The one of two entries that is handed out first. -/
def sooner (a b : Entry) : Entry := if b.precedes a then b else a

end Job.Entry

structure Job.Queue where
  entries : List Job.Entry
  /-- How many jobs have arrived so far. -/
  arrivals : Nat
  deriving Inhabited

namespace Job.Queue

def empty : Queue := ⟨[], 0⟩

def size (q : Queue) : Nat := q.entries.length

def isEmpty (q : Queue) : Bool := q.entries.isEmpty

/-- Add a job behind all waiting jobs of its tier. -/
def push (q : Queue) (j : Job) : Queue :=
  ⟨⟨j.tier.weight, q.arrivals, j⟩ :: q.entries, q.arrivals + 1⟩

/-- The entry that is handed out next. -/
def next? (q : Queue) : Option Entry :=
  match q.entries with
  | [] => none
  | e :: rest => some (rest.foldl Entry.sooner e)

/-- The job that is handed out next. -/
def peek? (q : Queue) : Option Job := q.next?.map (·.job)

def pop? (q : Queue) : Option (Job × Queue) :=
  q.next?.map fun e =>
    (e.job, { q with entries := q.entries.filter fun other => other.arrival != e.arrival })

@[simp] theorem size_push (q : Queue) (j : Job) : (q.push j).size = q.size + 1 := rfl

@[simp] theorem pop?_empty : empty.pop? = none := rfl

theorem pop?_eq_none_iff {q : Queue} : q.pop? = none ↔ q.entries = [] := by
  rcases q with ⟨_ | ⟨e, rest⟩, n⟩ <;> simp [pop?, next?]

theorem peek?_eq_map_pop? (q : Queue) : q.peek? = q.pop?.map (·.1) := by
  simp [peek?, pop?, Option.map_map, Function.comp_def]

end Job.Queue

end GpuCluster
