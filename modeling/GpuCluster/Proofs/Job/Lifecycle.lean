import Mathlib.Logic.Relation
import GpuCluster.Proofs.Job.Departure

/-!
# The life of a job

A job waits, runs and ends, or it fails before it runs.

* `Job.Advances` : one move of a job at some time;
* `Job.Evolves` : any number of moves at times of which something holds;
* `Job.Coherent` : which times and reasons the record of a job has in each status;
* `Job.Timely` : a job ends no earlier than it starts;
* `Job.Archive.Unfolds` : every stored job comes from one that was stored before.
-/

namespace GpuCluster

namespace Job

/-- One move of a job, recorded at a time. -/
inductive Advances (now : Instant) : Job → Job → Prop
  | start {j : Job} (pending : j.status = .pending) :
      Advances now j (j.advance now .running none)
  | refuse {j : Job} {reason : String} (pending : j.status = .pending) :
      Advances now j (j.advance now .failed (some reason))
  | complete {j : Job} (running : j.status = .running) :
      Advances now j (j.advance now .completed none)
  | fail {j : Job} {reason : String} (running : j.status = .running) :
      Advances now j (j.advance now .failed (some reason))
  | preempt {j : Job} {reason : String} (running : j.status = .running) :
      Advances now j (j.advance now .preempted (some reason))

/-- Any number of moves, at times of which `T` holds. -/
def Evolves (T : Instant → Prop) : Job → Job → Prop :=
  Relation.ReflTransGen fun j k => ∃ now, T now ∧ Advances now j k

/-- What the record of a job holds in each status. -/
def Coherent (j : Job) : Prop :=
  match j.status with
  | .pending => j.startedAt = none ∧ j.completedAt = none ∧ j.errorMessage = none
  | .running => j.startedAt.isSome ∧ j.completedAt = none ∧ j.errorMessage = none
  | .completed => j.startedAt.isSome ∧ j.completedAt.isSome ∧ j.errorMessage = none
  | .preempted => j.startedAt.isSome ∧ j.completedAt.isSome ∧ j.errorMessage.isSome
  | .failed => j.completedAt.isSome ∧ j.errorMessage.isSome
  | .cancelled => False

/-- A job starts at a time of which `T` holds, and ends no earlier than it starts. -/
structure Timely (T : Instant → Prop) (j : Job) : Prop where
  started : ∀ a, j.startedAt = some a → T a
  ordered : ∀ a b, j.startedAt = some a → j.completedAt = some b → a ≤ b

variable {T U : Instant → Prop} {now : Instant} {i j k : Job}

/-! ## One move -/

theorem Coherent.of_pending (h : j.Coherent) (hs : j.status = .pending) :
    j.startedAt = none ∧ j.completedAt = none ∧ j.errorMessage = none := by
  rwa [Coherent, hs] at h

theorem Coherent.of_running (h : j.Coherent) (hs : j.status = .running) :
    j.startedAt.isSome ∧ j.completedAt = none ∧ j.errorMessage = none := by
  rwa [Coherent, hs] at h

/-- Failed and preempted jobs have a reason, and no others. -/
theorem Coherent.errorMessage_iff (h : j.Coherent) :
    j.errorMessage.isSome ↔ j.status = .failed ∨ j.status = .preempted := by
  cases hs : j.status <;> simp [Coherent, hs] at h <;> simp [h]

theorem Advances.id_eq (h : Advances now j k) : k.id = j.id := by
  cases h <;> rfl

theorem Advances.not_terminal (h : Advances now j k) : j.isTerminal = false := by
  rw [isTerminal]
  cases h with
  | start hs => rw [hs]; rfl
  | refuse hs => rw [hs]; rfl
  | complete hs => rw [hs]; rfl
  | fail hs => rw [hs]; rfl
  | preempt hs => rw [hs]; rfl

theorem Advances.coherent (h : Advances now j k) (hj : j.Coherent) : k.Coherent := by
  cases h with
  | start hs =>
    obtain ⟨hstart, hend, herr⟩ := hj.of_pending hs
    refine ⟨?_, hend, herr⟩
    simp [advance, hstart]
  | refuse hs => exact ⟨rfl, rfl⟩
  | complete hs =>
    obtain ⟨hstart, -, herr⟩ := hj.of_running hs
    exact ⟨hstart, rfl, herr⟩
  | fail hs => exact ⟨rfl, rfl⟩
  | preempt hs => exact ⟨(hj.of_running hs).1, rfl, rfl⟩

/-- A start is never forgotten nor moved. -/
theorem Advances.startedAt_eq (h : Advances now j k) {a : Instant} (ha : j.startedAt = some a) :
    k.startedAt = some a := by
  cases h with
  | start => simp [advance, ha]
  | refuse => exact ha
  | complete => exact ha
  | fail => exact ha
  | preempt => exact ha

theorem Timely.mono (h : j.Timely T) (hTU : ∀ a, T a → U a) : j.Timely U :=
  ⟨fun a ha => hTU a (h.started a ha), h.ordered⟩

/-- A running job ends now, and it started before. -/
theorem Timely.ends (h : j.Timely T) (hT : ∀ a, T a → a ≤ now) {status : JobStatus}
    {reason : Option String} (hs : status ≠ .running) : (j.advance now status reason).Timely T := by
  have hstart : (j.advance now status reason).startedAt = j.startedAt := by
    simp [advance, hs]
  refine ⟨fun a ha => h.started a (hstart ▸ ha), fun a b ha hb => ?_⟩
  rw [hstart] at ha
  by_cases hterm : status.isTerminal = true
  · have hnow : (j.advance now status reason).completedAt = some now := if_pos hterm
    rw [hnow] at hb
    obtain rfl := Option.some.inj hb
    exact hT a (h.started a ha)
  · have hsame : (j.advance now status reason).completedAt = j.completedAt := if_neg hterm
    rw [hsame] at hb
    exact h.ordered a b ha hb

theorem Advances.timely (h : Advances now j k) (hj : j.Coherent) (ht : j.Timely T) (hnow : T now)
    (hT : ∀ a, T a → a ≤ now) : k.Timely T := by
  cases h with
  | start hs =>
    obtain ⟨hstart, hend, -⟩ := hj.of_pending hs
    refine ⟨fun a ha => ?_, fun a b _ hb => ?_⟩
    · have hset : (j.advance now .running none).startedAt = some now := by simp [advance, hstart]
      rw [hset] at ha
      exact Option.some.inj ha ▸ hnow
    · have hnone : (j.advance now .running none).completedAt = none := hend
      rw [hnone] at hb
      cases hb
  | refuse => exact ht.ends hT nofun
  | complete => exact ht.ends hT nofun
  | fail => exact ht.ends hT nofun
  | preempt => exact ht.ends hT nofun

/-! ## Any number of moves -/

theorem Evolves.single (h : Advances now j k) (hnow : T now) : Evolves T j k :=
  Relation.ReflTransGen.single ⟨now, hnow, h⟩

theorem Evolves.mono (h : Evolves T j k) (hTU : ∀ a, T a → U a) : Evolves U j k := by
  induction h with
  | refl => exact .refl
  | tail _ hstep ih =>
    obtain ⟨now, hnow, hadv⟩ := hstep
    exact ih.tail ⟨now, hTU now hnow, hadv⟩

theorem Evolves.eq_of_never (h : Evolves T j k) (hT : ∀ a, ¬ T a) : k = j := by
  induction h with
  | refl => rfl
  | tail _ hstep _ =>
    obtain ⟨now, hnow, -⟩ := hstep
    exact absurd hnow (hT now)

theorem Evolves.id_eq (h : Evolves T j k) : k.id = j.id := by
  induction h with
  | refl => rfl
  | tail _ hstep ih =>
    obtain ⟨_, -, hadv⟩ := hstep
    exact hadv.id_eq.trans ih

theorem Evolves.coherent (h : Evolves T j k) (hj : j.Coherent) : k.Coherent := by
  induction h with
  | refl => exact hj
  | tail _ hstep ih =>
    obtain ⟨_, -, hadv⟩ := hstep
    exact hadv.coherent ih

/-- A job that has ended stays as it is. -/
theorem Evolves.eq_of_terminal (h : Evolves T j k) (hj : j.isTerminal = true) : k = j := by
  induction h with
  | refl => rfl
  | tail _ hstep ih =>
    obtain ⟨_, -, hadv⟩ := hstep
    have hnot := hadv.not_terminal
    rw [ih, hj] at hnot
    cases hnot

theorem Evolves.startedAt_eq (h : Evolves T j k) {a : Instant} (ha : j.startedAt = some a) :
    k.startedAt = some a := by
  induction h with
  | refl => exact ha
  | tail _ hstep ih =>
    obtain ⟨_, -, hadv⟩ := hstep
    exact hadv.startedAt_eq ih

/-- Moves at one time, later than all others, keep a job timely. -/
theorem Evolves.timely (h : Evolves (· = now) j k) (hj : j.Coherent) (ht : j.Timely T)
    (hnow : T now) (hT : ∀ a, T a → a ≤ now) : k.Timely T := by
  induction h with
  | refl => exact ht
  | tail hbefore hstep ih =>
    obtain ⟨_, rfl, hadv⟩ := hstep
    exact hadv.timely (Evolves.coherent hbefore hj) ih hnow hT

/-! ## Stored jobs -/

namespace Archive

variable {a b c : Archive} {id : JobId} {change : Job → Job}

/-- Every stored job comes from one that was stored before. -/
def Unfolds (T : Instant → Prop) (a b : Archive) : Prop :=
  ∀ k ∈ b.toList, ∃ j ∈ a.toList, Evolves T j k

theorem Unfolds.refl (T : Instant → Prop) (a : Archive) : a.Unfolds T a :=
  fun k hk => ⟨k, hk, .refl⟩

theorem Unfolds.trans (h : a.Unfolds T b) (h' : b.Unfolds T c) : a.Unfolds T c := by
  intro k hk
  obtain ⟨j, hj, hjk⟩ := h' k hk
  obtain ⟨i, hi, hij⟩ := h j hj
  exact ⟨i, hi, hij.trans hjk⟩

theorem Indexed.unfolds_modify (h : a.Indexed)
    (hc : ∀ j ∈ a.toList, j.id = id → Evolves T j (change j)) :
    a.Unfolds T (a.modify id change) := by
  intro k hk
  obtain ⟨j, hj, rfl⟩ := h.mem_modify.1 hk
  refine ⟨j, hj, ?_⟩
  split
  next hid => exact hc j hj hid
  next => exact .refl

/-- Only the record that a look-up finds is changed. -/
theorem Indexed.unfolds_of_find? (h : a.Indexed) (hf : a.find? id = some j)
    (hj : Evolves T j (change j)) : a.Unfolds T (a.modify id change) := by
  obtain ⟨hmem, rfl⟩ := h.find?_eq_some_iff.1 hf
  refine h.unfolds_modify fun k hk hid => ?_
  rw [h.eq_of_id hk hmem hid]
  exact hj

theorem Departs.unfolds {xs : List Departure} (h : Departs now a xs b) (ha : a.Indexed)
    (hx : ∀ x ∈ xs, ∀ j : Job, j.status = .running →
      Advances now j (j.advance now x.status x.reason)) : a.Unfolds (· = now) b := by
  induction h with
  | nil => exact .refl _ _
  | @cons a b x xs j found running _ ih =>
    have hfirst : a.Unfolds (· = now) (a.modify x.id (advance now x.status x.reason)) :=
      ha.unfolds_of_find? found (.single (hx x List.mem_cons_self j running) rfl)
    exact hfirst.trans (ih (ha.modify fun _ => id_advance ..) fun y hy =>
      hx y (List.mem_cons_of_mem _ hy))

end Archive

end Job

end GpuCluster
