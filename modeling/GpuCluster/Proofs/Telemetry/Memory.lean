import GpuCluster.Proofs.Action
import GpuCluster.Proofs.Usage.Tables
import GpuCluster.Telemetry.Summarize

/-!
# Telemetry over stores in memory

* `Telemetry.Parts` : the archive and the tables in a state, `Parts.Same` : neither has moved;
* `Telemetry.InMemory` : telemetry that works on both, and whose other collaborators do not;
* `InMemory.summary?_apply`, `InMemory.insert_apply`, ... : what its calls to the stores come to.
-/

namespace GpuCluster.Telemetry

variable {σ α : Type}

/-! ## Parts of a state -/

/-- Where telemetry finds its jobs and keeps its records. -/
structure Parts (σ : Type) where
  jobs : Lens σ Job.Archive
  usage : Lens σ Usage.Tables

namespace Parts

/-- Neither part has moved. -/
structure Same (p : Parts σ) (s s' : σ) : Prop where
  jobs : p.jobs.get s' = p.jobs.get s
  usage : p.usage.get s' = p.usage.get s

variable {p : Parts σ} {s s' s'' : σ}

theorem Same.refl (s : σ) : p.Same s s := ⟨rfl, rfl⟩

theorem Same.trans (h : p.Same s s') (h' : p.Same s' s'') : p.Same s s'' :=
  ⟨h'.jobs.trans h.jobs, h'.usage.trans h.usage⟩

/-- The action does not move either part, however it ends. -/
def Beside (p : Parts σ) (x : Action σ α) : Prop := ∀ s, p.Same s (x.after s)

end Parts

/-! ## Telemetry on such a state -/

/-- Telemetry that works on an archive and on tables in memory. Its other collaborators do not
move them. The clock shows a date that is kept. -/
structure InMemory (t : Telemetry σ) (p : Parts σ) : Prop where
  jobs : t.jobs = Job.Store.archive.within p.jobs
  usage : t.usage = Usage.Store.tables.within p.usage
  jobsLawful : p.jobs.Lawful
  usageLawful : p.usage.Lawful
  /-- The tables are no part of the archive. -/
  apart : ∀ u s, p.jobs.get (p.usage.set u s) = p.jobs.get s
  clock : ∀ s, ∃ now s', t.clock s = .ok now s' ∧ now.isKept = true ∧ p.Same s s'
  calledOff : ∀ s, ∃ off s', t.calledOff s = .ok off s' ∧ p.Same s s'
  backend : ∀ backend ∈ t.backend, ∀ query time, p.Beside (backend query time)
  cluster : ∀ cluster ∈ t.cluster, ∀ name selector, p.Beside (cluster name selector)

namespace InMemory

variable {t : Telemetry σ} {p : Parts σ} (h : t.InMemory p) (s : σ)
include h

theorem same_of_calledOff {s s' : σ} {off : Bool} (hoff : t.calledOff s = .ok off s') :
    p.Same s s' := by
  obtain ⟨off', r, hrun, hsame⟩ := h.calledOff s
  rw [hoff] at hrun
  cases hrun
  exact hsame

theorem isKept_of_clock {s s' : σ} {now : Instant} (hclock : t.clock s = .ok now s') :
    now.isKept = true := by
  obtain ⟨now', r, hrun, hkept, -⟩ := h.clock s
  rw [hclock] at hrun
  cases hrun
  exact hkept

theorem withStatus_apply (statuses : List JobStatus) :
    t.jobs.withStatus statuses s = .ok ((p.jobs.get s).withStatus statuses) s := by
  rw [h.jobs]
  exact Action.zoom_of_same h.jobsLawful rfl

theorem summary?_apply (id : JobId) :
    t.usage.summary? id s = .ok ((p.usage.get s).summary? id) s := by
  rw [h.usage]
  exact Action.zoom_of_same h.usageLawful rfl

theorem ofJob_apply (id : JobId) : t.usage.ofJob id s = .ok ((p.usage.get s).ofJob id) s := by
  rw [h.usage]
  exact Action.zoom_of_same h.usageLawful rfl

theorem putSummary_apply (summary : Usage.Summary) : t.usage.putSummary summary s =
    .ok () (p.usage.set ((p.usage.get s).putSummary summary) s) := by
  rw [h.usage]
  rfl

theorem insert_apply (batch : List Usage.Snapshot) : t.usage.insert batch s =
    .ok () (p.usage.set ((p.usage.get s).insert batch) s) := by
  rw [h.usage]
  rfl

theorem dropBefore_apply (cutoff : Instant) : t.usage.dropBefore cutoff s =
    .ok ((p.usage.get s).snapshots.length - ((p.usage.get s).dropBefore cutoff).snapshots.length)
      (p.usage.set ((p.usage.get s).dropBefore cutoff) s) := by
  rw [h.usage]
  rfl

/-- Cleaning up drops the snapshots before a time, or fails and leaves all as it was. -/
theorem cleanUp_cases (retention : Duration) :
    p.jobs.get ((t.cleanUp retention).after s) = p.jobs.get s ∧
      (p.usage.get ((t.cleanUp retention).after s) = p.usage.get s ∨
        ∃ cutoff, p.usage.get ((t.cleanUp retention).after s) =
          (p.usage.get s).dropBefore cutoff) := by
  unfold cleanUp
  cases retention.asAge with
  | error e => exact ⟨rfl, .inl rfl⟩
  | ok age =>
    obtain ⟨now, s', hclock, -, hsame⟩ := h.clock s
    rw [Action.ofExcept, Action.after, Action.bind_of_ok (Action.pure_apply age s),
      Action.bind_of_ok hclock]
    cases now.minus age with
    | error f => exact ⟨hsame.jobs, .inl hsame.usage⟩
    | ok cutoff =>
      rw [Action.ofChecked, Action.bind_of_ok (Action.pure_apply cutoff s'), h.dropBefore_apply]
      refine ⟨(h.apart _ s').trans hsame.jobs, .inr ⟨cutoff, ?_⟩⟩
      rw [← hsame.usage]
      exact h.usageLawful.get_set _ s'

end InMemory

end GpuCluster.Telemetry
