import GpuCluster.Proofs.Telemetry.Memory
import GpuCluster.Proofs.Telemetry.Merge
import GpuCluster.Telemetry.Collect

/-!
# What a cycle may do

* `keeps_ask`, `keeps_samplePod`, ... : what its calls keep, the cycle keeps until it stores a batch;
* `Regular` : a snapshot of a job, of a date that is kept;
* `InMemory.collect_cases` : a cycle stores a batch of such snapshots of running jobs, or nothing.
-/

namespace GpuCluster.Telemetry

variable {σ α : Type} {t : Telemetry σ} {p : Parts σ} {I : σ → Prop} {s s' : σ}
  {backend : Metrics.Backend σ} {cluster : Cluster σ}

/-! ## What is kept -/

section Keeps
variable (hoff : Action.Keeps I t.calledOff)
include hoff

theorem keeps_ask {x : Action σ α} (hx : Action.Keeps I x) : Action.Keeps I (t.ask x) := by
  have hcall : Action.Keeps I (t.call x) := by
    refine Action.keeps_bind hoff fun off => ?_
    split
    · exact Action.keeps_fail _
    · exact hx
  refine Action.keeps_bind (Action.keeps_attempt hcall) fun r => ?_
  split
  · exact Action.keeps_pure _
  · exact Action.keeps_fail _
  · exact Action.keeps_pure _

variable (hbackend : ∀ query time, Action.Keeps I (backend query time))
  (hclock : Action.Keeps I t.clock)
include hbackend hclock

theorem keeps_samplePod (job : JobId) (pod : Pod) :
    Action.Keeps I (t.samplePod backend job pod) := by
  unfold samplePod
  split
  · exact Action.keeps_pure _
  refine Action.keeps_bind hclock fun time => ?_
  refine Action.keeps_bind (keeps_ask hoff (hbackend _ _)) fun memory => ?_
  refine Action.keeps_bind (keeps_ask hoff (hbackend _ _)) fun utilization => ?_
  split
  · exact Action.keeps_pure _
  · exact Action.keeps_ofChecked _

theorem keeps_samplePods (job : JobId) (pods : List Pod) :
    Action.Keeps I (t.samplePods backend job pods) := by
  induction pods with
  | nil => exact Action.keeps_pure _
  | cons pod rest ih =>
    refine Action.keeps_bind (keeps_samplePod hoff hbackend hclock job pod) fun first => ?_
    exact Action.keeps_bind ih fun others => Action.keeps_pure _

variable (hcluster : ∀ name selector, Action.Keeps I (cluster name selector))
include hcluster

theorem keeps_sampleJob (j : Job) : Action.Keeps I (t.sampleJob backend cluster j) := by
  unfold sampleJob
  split
  · exact Action.keeps_pure _
  refine Action.keeps_bind (keeps_ask hoff (hcluster _ _)) fun listed => ?_
  cases listed with
  | none => exact Action.keeps_pure _
  | some pods => exact keeps_samplePods hoff hbackend hclock j.id pods

theorem keeps_sampleJobs (jobs : List Job) :
    Action.Keeps I (t.sampleJobs backend cluster jobs) := by
  induction jobs with
  | nil => exact Action.keeps_pure _
  | cons j rest ih =>
    refine Action.keeps_bind (keeps_sampleJob hoff hbackend hclock hcluster j) fun first => ?_
    exact Action.keeps_bind ih fun others => Action.keeps_pure _

end Keeps

/-! ## What is sampled -/

/-- A snapshot of this job, of a date that is kept. -/
def Regular (job : JobId) (x : Usage.Snapshot) : Prop := x.jobId = job ∧ x.timestamp.isKept = true

section Regular
variable {rows : List Usage.Snapshot} {job : JobId} {pods : List Pod} {jobs : List Job}
  (hclock : ∀ s now s', t.clock s = .ok now s' → now.isKept = true)
include hclock

theorem samplePod_regular {pod : Pod} (h : t.samplePod backend job pod s = .ok rows s') :
    ∀ x ∈ rows, Regular job x := by
  unfold samplePod at h
  split at h
  · obtain ⟨rfl, -⟩ := Action.pure_ok.1 h
    exact fun x hx => absurd hx List.not_mem_nil
  obtain ⟨time, s₁, htime, h⟩ := Action.bind_ok.1 h
  obtain ⟨memory, s₂, -, h⟩ := Action.bind_ok.1 h
  obtain ⟨utilization, s₃, -, h⟩ := Action.bind_ok.1 h
  split at h
  · obtain ⟨rfl, -⟩ := Action.pure_ok.1 h
    exact fun x hx => absurd hx List.not_mem_nil
  cases hmerge : merge job pod time (memory.getD []) (utilization.getD []) with
  | error f =>
    rw [hmerge] at h
    cases h
  | ok found =>
    rw [hmerge] at h
    obtain ⟨rfl, -⟩ := Action.pure_ok.1 h
    intro x hx
    obtain ⟨hjob, htimestamp, -⟩ := merge_marks hmerge hx
    exact ⟨hjob, htimestamp ▸ hclock _ _ _ htime⟩

theorem samplePods_regular (h : t.samplePods backend job pods s = .ok rows s') :
    ∀ x ∈ rows, Regular job x := by
  induction pods generalizing s rows with
  | nil =>
    obtain ⟨rfl, -⟩ := Action.pure_ok.1 h
    exact fun x hx => absurd hx List.not_mem_nil
  | cons pod rest ih =>
    obtain ⟨first, s₁, hfirst, h⟩ := Action.bind_ok.1 h
    obtain ⟨others, s₂, hothers, h⟩ := Action.bind_ok.1 h
    obtain ⟨rfl, rfl⟩ := Action.pure_ok.1 h
    exact List.forall_mem_append.2 ⟨samplePod_regular hclock hfirst, ih hothers⟩

theorem sampleJob_regular {j : Job} (h : t.sampleJob backend cluster j s = .ok rows s') :
    ∀ x ∈ rows, Regular j.id x := by
  unfold sampleJob at h
  split at h
  · obtain ⟨rfl, -⟩ := Action.pure_ok.1 h
    exact fun x hx => absurd hx List.not_mem_nil
  obtain ⟨listed, s₁, -, h⟩ := Action.bind_ok.1 h
  cases listed with
  | none =>
    obtain ⟨rfl, -⟩ := Action.pure_ok.1 h
    exact fun x hx => absurd hx List.not_mem_nil
  | some pods => exact samplePods_regular hclock h

theorem sampleJobs_regular (h : t.sampleJobs backend cluster jobs s = .ok rows s') :
    ∀ x ∈ rows, ∃ j ∈ jobs, Regular j.id x := by
  induction jobs generalizing s rows with
  | nil =>
    obtain ⟨rfl, -⟩ := Action.pure_ok.1 h
    exact fun x hx => absurd hx List.not_mem_nil
  | cons j rest ih =>
    obtain ⟨first, s₁, hfirst, h⟩ := Action.bind_ok.1 h
    obtain ⟨others, s₂, hothers, h⟩ := Action.bind_ok.1 h
    obtain ⟨rfl, rfl⟩ := Action.pure_ok.1 h
    refine List.forall_mem_append.2 ⟨fun x hx => ?_, fun x hx => ?_⟩
    · exact ⟨j, List.mem_cons_self, sampleJob_regular hclock hfirst x hx⟩
    · obtain ⟨k, hk, hx⟩ := ih hothers x hx
      exact ⟨k, List.mem_cons_of_mem j hk, hx⟩

end Regular

/-! ## A cycle -/

namespace InMemory

variable (h : t.InMemory p)
include h

/-- Sampling moves neither the archive nor the tables. -/
theorem sampleJobs_beside (hbackend : t.backend = some backend) (hcluster : t.cluster = some cluster)
    (jobs : List Job) : p.Beside (t.sampleJobs backend cluster jobs) := by
  intro s
  have hoff : Action.Keeps (p.Same s) t.calledOff := by
    intro r hr
    obtain ⟨off, r', hrun, hsame⟩ := h.calledOff r
    rw [Action.after_of_ok hrun]
    exact hr.trans hsame
  have hclock : Action.Keeps (p.Same s) t.clock := by
    intro r hr
    obtain ⟨now, r', hrun, -, hsame⟩ := h.clock r
    rw [Action.after_of_ok hrun]
    exact hr.trans hsame
  exact keeps_sampleJobs hoff (fun query time r hr => hr.trans (h.backend _ hbackend query time r))
    hclock (fun name selector r hr => hr.trans (h.cluster _ hcluster name selector r)) jobs s
    (.refl s)

/-- A cycle stores a batch of snapshots of running jobs, of kept dates, or it stores nothing. -/
theorem collect_cases (s : σ) :
    p.jobs.get (t.collect.after s) = p.jobs.get s ∧
      (p.usage.get (t.collect.after s) = p.usage.get s ∨
        ∃ batch, p.usage.get (t.collect.after s) = (p.usage.get s).insert batch ∧
          ∀ x ∈ batch, ∃ j ∈ (p.jobs.get s).withStatus [.running], Regular j.id x) := by
  unfold collect
  cases hbackend : t.backend with
  | none => exact ⟨rfl, .inl rfl⟩
  | some backend =>
  cases hcluster : t.cluster with
  | none => exact ⟨rfl, .inl rfl⟩
  | some cluster =>
  dsimp only
  rw [Action.after, Action.bind_of_ok (h.withStatus_apply s [.running])]
  generalize (p.jobs.get s).withStatus [.running] = running
  split_ifs
  · exact ⟨rfl, .inl rfl⟩
  have hbeside := h.sampleJobs_beside hbackend hcluster running s
  cases hrun : t.sampleJobs backend cluster running s with
  | error f s' =>
    rw [Action.after_of_error hrun] at hbeside
    rw [Action.bind_of_error hrun]
    exact ⟨hbeside.jobs, .inl hbeside.usage⟩
  | ok batch s' =>
    rw [Action.after_of_ok hrun] at hbeside
    rw [Action.bind_of_ok hrun, Action.bind_of_ok (h.insert_apply s' batch)]
    refine ⟨(h.apart _ s').trans hbeside.jobs, .inr ⟨batch, ?_, ?_⟩⟩
    · rw [← hbeside.usage]
      exact h.usageLawful.get_set _ s'
    · exact sampleJobs_regular (fun _ _ _ hclock => h.isKept_of_clock hclock) hrun

end InMemory

end GpuCluster.Telemetry
