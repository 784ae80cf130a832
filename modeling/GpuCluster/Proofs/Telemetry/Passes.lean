import GpuCluster.Daemon.Run
import GpuCluster.Proofs.Daemon.Conservation
import GpuCluster.Proofs.Telemetry.Sampling
import GpuCluster.Proofs.Telemetry.Summaries

/-!
# What becomes of summaries

* `owing` : the jobs that have ended, have snapshots and lack a summary;
* `Settled` : each of them has gained its summary, and nothing else has changed;
* `Move`, `Step` : what may happen to the tables, the passes among it; `Step.tables_cases` : what it
  comes to;
* `summaries_exactly_once` : a pass settles what is owing, no summary that is written is lost, and
  a pass right after another one does nothing.
-/

namespace GpuCluster

namespace Usage.Tables

variable {u : Tables} {id : JobId}

/-- Snapshots that go leave no summary owed that was not. -/
theorem not_owes_dropBefore (h : u.owes id = false) (cutoff : Instant) :
    (u.dropBefore cutoff).owes id = false := by
  rw [Bool.eq_false_iff, ne_eq, owes_iff] at h ⊢
  rintro ⟨hnone, hrows⟩
  refine h ⟨hnone, fun hnil => hrows ?_⟩
  rw [ofJob_eq_nil_iff] at hnil ⊢
  exact fun x hx => hnil x (List.mem_of_mem_filter hx)

end Usage.Tables

namespace Telemetry

open Usage (Tables)
open Usage.Tables (Filled Listing listing_ofJob owes_iff)

variable {σ : Type} {t : Telemetry σ} {p : Parts σ} {s s' s₁ s₂ : σ} {id : JobId} {n : Nat}
  {summary : Usage.Summary}

/-! ## A pass over the stored jobs -/

/-- The jobs that have ended, have snapshots and lack a summary. -/
def owing (a : Job.Archive) (u : Tables) : List Job :=
  (a.withStatus JobStatus.terminal).filter fun j => u.owes j.id

/-- Each job that owed a summary has gained that of its snapshots. All else is as it was. -/
structure Settled (p : Parts σ) (s s' : σ) : Prop where
  jobs : p.jobs.get s' = p.jobs.get s
  snapshots : (p.usage.get s').snapshots = (p.usage.get s).snapshots
  lastId : (p.usage.get s').lastId = (p.usage.get s).lastId
  gained : ∀ j ∈ owing (p.jobs.get s) (p.usage.get s), ∃ rows now summary,
    Listing (p.usage.get s).snapshots j.id rows ∧
    Usage.summarize j.id rows now = .ok (some summary) ∧
    (p.usage.get s').summary? j.id = some summary
  others : ∀ id, (∀ j ∈ owing (p.jobs.get s) (p.usage.get s), j.id ≠ id) →
    (p.usage.get s').summary? id = (p.usage.get s).summary? id

namespace InMemory

variable (h : t.InMemory p)
include h

theorem summarize_eq (s : σ) :
    t.summarize s = t.summarizeJobs ((p.jobs.get s).withStatus JobStatus.terminal) s :=
  Action.bind_of_ok (h.withStatus_apply s JobStatus.terminal)

theorem summarize_filled (s : σ) : p.jobs.get (t.summarize.after s) = p.jobs.get s ∧
    Filled (((p.jobs.get s).withStatus JobStatus.terminal).map (·.id)) (p.usage.get s)
      (p.usage.get (t.summarize.after s)) := by
  rw [Action.after, h.summarize_eq, ← Action.after]
  exact h.summarizeJobs_filled _ s

theorem settled_of_ok (hindexed : (p.jobs.get s).Indexed) (hok : t.summarize s = .ok n s') :
    n = (owing (p.jobs.get s) (p.usage.get s)).length ∧ Settled p s s' := by
  obtain ⟨hjobs, hfilled⟩ := h.summarize_filled s
  rw [Action.after_of_ok hok] at hjobs hfilled
  rw [h.summarize_eq] at hok
  obtain ⟨hgiven, hcount⟩ := h.summarizeJobs_ok hok
  have hnodup : (((p.jobs.get s).withStatus JobStatus.terminal).map (·.id)).Nodup :=
    hindexed.nodup.sublist (List.filter_sublist.map _)
  refine ⟨hcount hnodup, hjobs, hfilled.snapshots, hfilled.lastId, fun j hj => ?_, fun id hid => ?_⟩
  · obtain ⟨hmem, howes⟩ := List.mem_filter.1 hj
    obtain heq | ⟨-, -, now, summary, hsummary, hfound⟩ := hfilled.summary j.id
    · -- What is still owed after the pass would have been given by it.
      have hstill := hgiven j hmem
      rw [Tables.owes, heq, hfilled.snapshots, ← Tables.owes, howes] at hstill
      cases hstill
    · exact ⟨_, now, summary, listing_ofJob _ _, hsummary, hfound⟩
  · obtain heq | ⟨hmem, hgained⟩ := hfilled.summary id
    · exact heq
    · obtain ⟨j, hj, rfl⟩ := List.mem_map.1 hmem
      exact absurd rfl (hid j (List.mem_filter.2 ⟨hj, hgained.owes⟩))

end InMemory

/-! ## What may happen -/

/-- What may happen to the tables and beside them. -/
inductive Move where
  | insert (batch : List Usage.Snapshot)
  | collect
  | pass
  | cleanUp (retention : Duration)
  /-- Jobs are stored or change their status. -/
  | jobs
  /-- Neither the jobs nor the tables change. -/
  | elsewhere

/-- The move brings no snapshots and leaves the jobs alone. -/
def Move.isQuiet : Move → Bool
  | pass | cleanUp _ | elsewhere => true
  | insert _ | collect | jobs => false

/-- One move, however it ends. -/
inductive Step (t : Telemetry σ) (p : Parts σ) (s : σ) : Move → σ → Prop
  | insert (batch : List Usage.Snapshot) : Step t p s (.insert batch) ((t.usage.insert batch).after s)
  | collect : Step t p s .collect (t.collect.after s)
  | pass : Step t p s .pass (t.summarize.after s)
  | cleanUp (retention : Duration) : Step t p s (.cleanUp retention) ((t.cleanUp retention).after s)
  | jobs {s' : σ} (usage : p.usage.get s' = p.usage.get s) : Step t p s .jobs s'
  | elsewhere {s' : σ} (same : p.Same s s') : Step t p s .elsewhere s'

variable {m : Move} {moves : List Move}

/-- What a move can do, in four cases. -/
theorem Step.tables_cases (h : t.InMemory p) (step : Step t p s m s') :
    -- The tables stay as they are. The jobs change in a move of their own only.
    (p.usage.get s' = p.usage.get s ∧ (m = .jobs ∨ p.jobs.get s' = p.jobs.get s)) ∨
    p.jobs.get s' = p.jobs.get s ∧
      -- A batch of snapshots comes; those that are collected are of running jobs.
      ((∃ batch, p.usage.get s' = (p.usage.get s).insert batch ∧
          (m = .insert batch ∨ m = .collect ∧
            ∀ x ∈ batch, ∃ j ∈ (p.jobs.get s).withStatus [.running], Regular j.id x)) ∨
        -- Jobs that have ended gain summaries.
        (m = .pass ∧ Filled (((p.jobs.get s).withStatus JobStatus.terminal).map (·.id))
          (p.usage.get s) (p.usage.get s')) ∨
        -- Old snapshots go.
        ∃ retention cutoff, m = .cleanUp retention ∧
          p.usage.get s' = (p.usage.get s).dropBefore cutoff) := by
  cases step with
  | insert batch =>
    rw [Action.after_of_ok (h.insert_apply s batch)]
    exact .inr ⟨h.apart _ s, .inl ⟨batch, h.usageLawful.get_set _ s, .inl rfl⟩⟩
  | collect =>
    obtain ⟨hjobs, husage | ⟨batch, husage, hbatch⟩⟩ := h.collect_cases s
    · exact .inl ⟨husage, .inr hjobs⟩
    · exact .inr ⟨hjobs, .inl ⟨batch, husage, .inr ⟨rfl, hbatch⟩⟩⟩
  | pass =>
    obtain ⟨hjobs, hfilled⟩ := h.summarize_filled s
    exact .inr ⟨hjobs, .inr (.inl ⟨rfl, hfilled⟩)⟩
  | cleanUp retention =>
    obtain ⟨hjobs, husage | ⟨cutoff, husage⟩⟩ := h.cleanUp_cases s retention
    · exact .inl ⟨husage, .inr hjobs⟩
    · exact .inr ⟨hjobs, .inr (.inr ⟨retention, cutoff, rfl, husage⟩)⟩
  | jobs usage => exact .inl ⟨usage, .inl rfl⟩
  | elsewhere same => exact .inl ⟨same.usage, .inr same.jobs⟩

/-- A summary that is written stays as it is. -/
theorem Step.keeps_summary (h : t.InMemory p) (step : Step t p s m s')
    (hs : (p.usage.get s).summary? id = some summary) :
    (p.usage.get s').summary? id = some summary := by
  obtain ⟨husage, -⟩ | ⟨-, ⟨batch, husage, -⟩ | ⟨-, hfilled⟩ | ⟨-, cutoff, -, husage⟩⟩ :=
    step.tables_cases h
  · rwa [husage]
  · rw [husage]
    exact hs
  · exact hfilled.keeps hs
  · rw [husage]
    exact hs

/-- Nothing is owed to the jobs that have ended. -/
def Clear (p : Parts σ) (s : σ) : Prop :=
  ∀ j ∈ (p.jobs.get s).withStatus JobStatus.terminal, (p.usage.get s).owes j.id = false

/-- Without new snapshots and with the same jobs, nothing comes to be owed. -/
theorem Step.clear (h : t.InMemory p) (step : Step t p s m s') (hm : m.isQuiet = true)
    (hs : Clear p s) : Clear p s' := by
  obtain ⟨husage, rfl | hjobs⟩ | ⟨hjobs, ⟨batch, -, rfl | ⟨rfl, -⟩⟩ | ⟨-, hfilled⟩ |
    ⟨-, cutoff, -, husage⟩⟩ := step.tables_cases h
  · cases hm
  · rw [Clear, hjobs, husage]
    exact hs
  · cases hm
  · cases hm
  · rw [Clear, hjobs]
    exact fun j hj => hfilled.not_owes (hs j hj)
  · rw [Clear, hjobs, husage]
    exact fun j hj => Tables.not_owes_dropBefore (hs j hj) cutoff

/-! ## Exactly once -/

/-- A pass gives each job that has ended and has snapshots its summary, unless it has one, and
counts them. A summary that is written stays, whatever happens. A pass that follows another one
without new snapshots or changed jobs does nothing. -/
theorem summaries_exactly_once (h : t.InMemory p) :
    (∀ s, (p.jobs.get s).Indexed →
      (∀ x ∈ (p.usage.get s).snapshots, x.timestamp.isKept = true) →
      (∃ s', t.summarize s = .ok (owing (p.jobs.get s) (p.usage.get s)).length s' ∧
        Settled p s s') ∨ t.BreaksOff t.summarize s) ∧
    (∀ s moves s' id summary, Runs (Step t p) s moves s' →
      (p.usage.get s).summary? id = some summary →
      (p.usage.get s').summary? id = some summary) ∧
    ∀ s n s₁ moves s₂, t.summarize s = .ok n s₁ → Runs (Step t p) s₁ moves s₂ →
      (∀ m ∈ moves, m.isQuiet = true) →
      p.Same s₂ (t.summarize.after s₂) ∧
        ((∃ s', t.summarize s₂ = .ok 0 s') ∨ t.BreaksOff t.summarize s₂) := by
  refine ⟨fun s hindexed hkept => ?_, fun s moves s' id summary hrun hs => ?_,
    fun s n s₁ moves s₂ hok hrun hquiet => ?_⟩
  · obtain ⟨n, s', hok⟩ | hoff := h.summarizeJobs_ends hkept
      ((p.jobs.get s).withStatus JobStatus.terminal)
    · rw [← h.summarize_eq] at hok
      obtain ⟨rfl, hsettled⟩ := h.settled_of_ok hindexed hok
      exact .inl ⟨s', hok, hsettled⟩
    · rw [BreaksOff, ← h.summarize_eq] at hoff
      exact .inr hoff
  · exact hrun.invariant (I := fun _ r => (p.usage.get r).summary? id = some summary) hs
      fun _ _ _ _ hr step => step.keeps_summary h hr
  · have hclear : Clear p s₁ := by
      have hjobs := (h.summarize_filled s).1
      rw [Action.after_of_ok hok] at hjobs
      rw [h.summarize_eq] at hok
      rw [Clear, hjobs]
      exact (h.summarizeJobs_ok hok).1
    have hclear' : Clear p s₂ := by
      refine hrun.invariant (I := fun ms r => (∀ m ∈ ms, m.isQuiet = true) → Clear p r)
        (fun _ => hclear) (fun ms m r r' hr step hms => ?_) hquiet
      refine step.clear h (hms m (List.mem_append_right ms (List.mem_singleton_self m))) (hr ?_)
      exact fun k hk => hms k (List.mem_append_left _ hk)
    rw [BreaksOff, Action.after, h.summarize_eq, ← Action.after, ← BreaksOff]
    exact h.summarizeJobs_of_not_owes hclear'

end Telemetry

/-! ## The telemetry of a daemon -/

namespace Daemon

open Telemetry (owing)
open Session (refusingPlan)

variable {ε : Type}

theorem usagePart_lawful : (usagePart : Lens (Daemon ε) Usage.Tables).Lawful :=
  ⟨fun _ _ => rfl, fun _ => rfl, fun _ _ _ => rfl⟩

/-- The parts of a daemon that telemetry works on. -/
def telemetryParts : Telemetry.Parts (Daemon ε) := ⟨jobsPart, usagePart⟩

theorem telemetry_inMemory {p : Plan ε} {now : Instant} (hkept : now.isKept = true)
    (hbackend : p.backend = none) (hcluster : p.cluster = none) :
    (telemetry p now).InMemory telemetryParts where
  jobs := rfl
  usage := rfl
  jobsLawful := jobsPart_lawful
  usageLawful := usagePart_lawful
  apart _ _ := rfl
  clock s := ⟨now, s, rfl, hkept, .refl s⟩
  calledOff s := ⟨false, s, rfl, .refl s⟩
  backend b hb := by
    change b ∈ p.backend at hb
    rw [hbackend] at hb
    cases hb
  cluster c hc := by
    change c ∈ p.cluster at hc
    rw [hcluster] at hc
    cases hc

/-- A job that has ended. -/
def endedJob : Job := { id := ⟨9#128⟩, status := .completed, createdAt := ⟨0, 0⟩ }

/-- A snapshot of it. -/
def endedSnapshot : Usage.Snapshot :=
  { id := 1, jobId := endedJob.id, timestamp := ⟨60, 0⟩, podName := "pod", podNamespace := "default",
    gpuIndex := 0, gpuUuid := "", memoryBytes := 0, utilization := 0, node := "", units := 0,
    physicalIndex := 0 }

/-- A job that has ended gains its summary in one pass, and the next pass does nothing. -/
theorem summaries_exactly_once_ended : ∃ d d₁ d₂ : Daemon Unit,
    (telemetry refusingPlan ⟨100, 0⟩).summarize d = .ok 1 d₁ ∧
    (∃ summary, d₁.usage.summary? endedJob.id = some summary ∧ summary.sampleCount = 1) ∧
    (telemetry refusingPlan ⟨100, 0⟩).summarize d₁ = .ok 0 d₂ ∧ d₂.usage = d₁.usage := by
  have hmem : (telemetry refusingPlan ⟨100, 0⟩).InMemory telemetryParts :=
    telemetry_inMemory (by decide) rfl rfl
  have hquiet : ∀ x : Action (Daemon Unit) Nat, ∀ r,
      ¬(telemetry refusingPlan ⟨100, 0⟩).BreaksOff x r := by
    rintro x r ⟨r', s', hoff, -⟩
    cases hoff
  obtain ⟨a, ha⟩ := Job.Archive.exists_add_empty endedJob
  have hlist : a.toList = [endedJob] := Job.Archive.toList_add ha
  let d : Daemon Unit :=
    { jobs := a, usage := { snapshots := [endedSnapshot], lastId := 1 }, executors := () }
  have howing : owing (telemetryParts.jobs.get d) (telemetryParts.usage.get d) = [endedJob] := by
    change (a.toList.filter _).filter _ = _
    rw [hlist]
    rfl
  obtain ⟨hpass, -, hagain⟩ := Telemetry.summaries_exactly_once hmem
  obtain ⟨d₁, hok, hsettled⟩ | hoff := hpass d (Job.Archive.indexed_empty.add ha) (by
    intro x hx
    obtain rfl := List.mem_singleton.1 hx
    decide)
  · rw [howing] at hok
    obtain ⟨hsame, ⟨d₂, hok'⟩ | hoff⟩ := hagain d 1 d₁ [] d₁ hok .nil (fun m hm => by cases hm)
    · rw [Action.after_of_ok hok'] at hsame
      obtain ⟨rows, now, summary, hlisting, hsummary, hfound⟩ :=
        hsettled.gained endedJob (howing ▸ List.mem_singleton_self _)
      refine ⟨d, d₁, d₂, hok, ⟨summary, hfound, ?_⟩, hok', hsame.usage⟩
      rw [(Usage.of_summarize hsummary).2.2, hlisting.perm.length_eq]
      rfl
    · exact absurd hoff (hquiet _ _)
  · exact absurd hoff (hquiet _ _)

end Daemon

end GpuCluster
