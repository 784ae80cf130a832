import GpuCluster.Proofs.Job.Archive

/-!
# Jobs that others change as well

* `Job.Change` : a status that someone records, `Job.amend` : a record after some changes;
* `Job.Shared` : stored jobs, and what others will record before each conditional write;
* `Job.Store.shared` : a store in which the others take a turn before each conditional write;
* `Shared.recordIf_shared` : such a write expects the status that the others have left.
-/

namespace GpuCluster.Job

/-- A status that someone records. -/
structure Change where
  now : Instant
  id : JobId
  status : JobStatus
  reason : Option String

/-! ## Changes -/

/-- A record after some changes, of which only those of its identity count. -/
def amend (j : Job) (cs : List Change) : Job :=
  cs.foldl (fun j c => if j.id = c.id then j.advance c.now c.status c.reason else j) j

variable {j : Job} {id : JobId} {a : Archive}

@[simp] theorem amend_nil (j : Job) : j.amend [] = j := rfl

theorem amend_append (j : Job) (cs ds : List Change) :
    j.amend (cs ++ ds) = (j.amend cs).amend ds := List.foldl_append ..

/-- A job that is not running is not running later unless someone starts it. -/
theorem amend_not_running {cs : List Change} (hj : j.status ≠ .running)
    (hcs : ∀ c ∈ cs, c.id = j.id → c.status ≠ .running) : (j.amend cs).status ≠ .running := by
  induction cs generalizing j with
  | nil => exact hj
  | cons c rest ih =>
    show (amend (if j.id = c.id then j.advance c.now c.status c.reason else j) rest).status ≠ _
    have hrest : ∀ c ∈ rest, c.id = j.id → c.status ≠ .running :=
      fun c hc => hcs c (List.mem_cons_of_mem _ hc)
    split
    next hid => exact ih (hcs c List.mem_cons_self hid.symm) hrest
    next => exact ih hj hrest

namespace Archive

def amend (a : Archive) (cs : List Change) : Archive :=
  cs.foldl (fun a c => a.modify c.id (Job.advance c.now c.status c.reason)) a

theorem Indexed.amend (h : a.Indexed) (cs : List Change) : (a.amend cs).Indexed := by
  induction cs generalizing a with
  | nil => exact h
  | cons c rest ih => exact ih (h.advance)

theorem Indexed.find?_amend (h : a.Indexed) (cs : List Change) (id : JobId) :
    (a.amend cs).find? id = (a.find? id).map (·.amend cs) := by
  induction cs generalizing a with
  | nil => exact Option.map_id'.symm
  | cons c rest ih =>
    show (Archive.amend (a.modify c.id _) rest).find? id = _
    rw [ih (h.advance), h.find?_advance, Option.map_map]
    cases hf : a.find? id with
    | none => rfl
    | some j =>
      obtain ⟨-, rfl⟩ := h.find?_eq_some_iff.1 hf
      rfl

end Archive

/-! ## A shared store -/

/-- Stored jobs, and what others will record before each conditional write. -/
structure Shared where
  jobs : Archive
  ahead : List (List Change)

namespace Shared

def jobsPart : Lens Shared Archive := ⟨Shared.jobs, fun a s => { s with jobs := a }⟩

/-- The others take a turn. -/
def turn (s : Shared) : Shared := ⟨s.jobs.amend (s.ahead.headD []), s.ahead.tail⟩

/-- What the others record from turn `m` up to turn `n`. -/
def turns (s : Shared) (m n : Nat) : List Change := ((s.ahead.take n).drop m).flatten

theorem turns_succ (s : Shared) (n : Nat) :
    s.turns 0 (n + 1) = s.ahead.headD [] ++ s.turn.turns 0 n := by
  unfold turns turn
  cases s.ahead <;> simp

theorem turns_succ_succ (s : Shared) (m n : Nat) : s.turns (m + 1) (n + 1) = s.turn.turns m n := by
  unfold turns turn
  cases s.ahead <;> simp

theorem turns_self (s : Shared) (n : Nat) : s.turns n n = [] := by
  unfold turns
  rw [List.drop_eq_nil_of_le (List.length_take_le ..)]
  rfl

end Shared

/-- The store of shared jobs: the others take a turn before each conditional write. -/
def Store.shared : Store Shared :=
  let store := Store.archive.within Shared.jobsPart
  { store with
    recordIf := fun now id expected status reason s =>
      store.recordIf now id expected status reason s.turn }

namespace Shared

variable {s : Shared} (now : Instant) (id : JobId) (expected status : JobStatus)
  (reason : Option String)

/-- The jobs after a conditional write. -/
def written (s : Shared) : Shared :=
  if s.turn.jobs.statusOf? id = some expected then
    ⟨s.turn.jobs.modify id (Job.advance now status reason), s.ahead.tail⟩
  else s.turn

theorem ahead_written : (s.written now id expected status reason).ahead = s.ahead.tail := by
  unfold written
  split <;> rfl

theorem indexed_written (hi : s.jobs.Indexed) :
    (s.written now id expected status reason).jobs.Indexed := by
  unfold written
  split
  next => exact (hi.amend _).advance
  next => exact hi.amend _

/-- A conditional write reaches one record, and that one only if it has the expected status. -/
theorem find?_written (hi : s.jobs.Indexed) (other : JobId) :
    (s.written now id expected status reason).jobs.find? other =
      (s.turn.jobs.find? other).map fun j =>
        if other = id ∧ j.status = expected then j.advance now status reason else j := by
  unfold written
  split
  next hs =>
    have hturn : s.turn.jobs.Indexed := hi.amend _
    refine (hturn.find?_advance ..).trans (Option.map_congr fun j hj => ?_)
    by_cases hid : other = id
    · subst hid
      rw [Archive.statusOf?_of_find? hj] at hs
      rw [if_pos rfl, if_pos ⟨rfl, Option.some.inj hs⟩]
    · rw [if_neg hid, if_neg fun h => hid h.1]
  next hs =>
    cases hj : s.turn.jobs.find? other with
    | none => rfl
    | some j =>
      refine congrArg some (if_neg ?_).symm
      rintro ⟨rfl, hstatus⟩
      exact hs (hstatus ▸ Archive.statusOf?_of_find? hj)

theorem recordIf_shared (hi : s.jobs.Indexed) (hf : s.jobs.find? id ≠ none) :
    Store.shared.recordIf now id expected status reason s =
      .ok (s.turn.jobs.statusOf? id == some expected)
        (s.written now id expected status reason) := by
  obtain ⟨j, hj⟩ := Option.ne_none_iff_exists'.1 hf
  have hturn : s.turn.jobs.find? id = some (j.amend (s.ahead.headD [])) := by
    rw [turn, hi.find?_amend, hj, Option.map_some]
  obtain ⟨moved, b, hwrite⟩ := Archive.recordIf_of_find? now expected status reason hturn
  have hrecord : Store.shared.recordIf now id expected status reason s =
      .ok moved ⟨b, s.ahead.tail⟩ := Action.zoom_of_ok hwrite
  obtain ⟨k, hk, hcases⟩ := Archive.recordIf_ok hwrite
  rw [hrecord, written, Archive.statusOf?_of_find? hk]
  rcases hcases with ⟨rfl, rfl, rfl⟩ | ⟨hs, rfl, rfl⟩
  · rw [if_pos rfl, beq_self_eq_true]
  · have hne : some k.status ≠ some expected := fun h => hs (Option.some.inj h)
    rw [if_neg hne, beq_eq_false_iff_ne.2 hne]
    rfl

end Shared

end GpuCluster.Job
