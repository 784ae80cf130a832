import GpuCluster.Proofs.Job.Archive
import GpuCluster.Proofs.Runs
import GpuCluster.Proofs.Telemetry.Memory
import GpuCluster.Proofs.Usage.Credit

/-!
# Passes over the summaries

* `Usage.Tables.owes` : a job has snapshots and lacks a summary;
* `Usage.Tables.Filled` : tables in which some jobs have gained the summaries of their snapshots;
* `InMemory.summarizeJob_cases` : all that a pass can do with one job;
* `InMemory.summarizeJobs_filled`, `InMemory.summarizeJobs_ends` : what it does with many jobs, and
  how it ends.
-/

namespace GpuCluster

namespace Usage.Tables

variable {u u' u'' : Tables} {id : JobId} {ids : List JobId} {summary : Summary}

/-! ## Summaries that are owed and given -/

/-- The job has snapshots and lacks a summary. -/
def owes (u : Tables) (id : JobId) : Bool :=
  (u.summary? id).isNone && u.snapshots.any (·.jobId == id)

theorem owes_iff : u.owes id = true ↔ u.summary? id = none ∧ u.ofJob id ≠ [] := by
  rw [owes, Bool.and_eq_true, Option.isNone_iff_eq_none, List.any_eq_true, ne_eq, ofJob_eq_nil_iff]
  simp only [beq_iff_eq, ne_eq, not_forall, not_not, exists_prop]

theorem not_owes_of_some (h : u.summary? id = some summary) : u.owes id = false := by
  rw [owes, h]
  rfl

/-- The job had no summary and has gained that of its snapshots. -/
def Gained (u u' : Tables) (id : JobId) : Prop :=
  u.summary? id = none ∧ ∃ now summary,
    summarize id (u.ofJob id) now = .ok (some summary) ∧ u'.summary? id = some summary

theorem Gained.owes (h : Gained u u' id) : u.owes id = true := by
  obtain ⟨hnone, now, summary, hsummary, -⟩ := h
  exact owes_iff.2 ⟨hnone, (of_summarize hsummary).1⟩

/-- Some of these jobs have gained summaries. All else is as it was. -/
structure Filled (ids : List JobId) (u u' : Tables) : Prop where
  snapshots : u'.snapshots = u.snapshots
  lastId : u'.lastId = u.lastId
  summary : ∀ id, u'.summary? id = u.summary? id ∨ id ∈ ids ∧ Gained u u' id

namespace Filled

theorem refl (ids : List JobId) (u : Tables) : Filled ids u u := ⟨rfl, rfl, fun _ => .inl rfl⟩

theorem ofJob (h : Filled ids u u') (id : JobId) : u'.ofJob id = u.ofJob id := by
  rw [Tables.ofJob, h.snapshots, Tables.ofJob]

/-- A summary stays. -/
theorem keeps (h : Filled ids u u') (hs : u.summary? id = some summary) :
    u'.summary? id = some summary := by
  obtain heq | ⟨-, hnone, -⟩ := h.summary id
  · rw [heq, hs]
  · rw [hs] at hnone
    cases hnone

/-- What is not owed before is not owed after. -/
theorem not_owes (h : Filled ids u u') (ho : u.owes id = false) : u'.owes id = false := by
  obtain heq | ⟨-, hgained⟩ := h.summary id
  · rw [owes, heq, h.snapshots]
    exact ho
  · rw [hgained.owes] at ho
    cases ho

theorem owes_of_not_mem (h : Filled ids u u') (hid : id ∉ ids) : u'.owes id = u.owes id := by
  obtain heq | ⟨hmem, -⟩ := h.summary id
  · rw [owes, heq, h.snapshots, owes]
  · exact absurd hmem hid

theorem trans (h : Filled ids u u') (h' : Filled ids u' u'') : Filled ids u u'' := by
  refine ⟨h'.snapshots.trans h.snapshots, h'.lastId.trans h.lastId, fun id => ?_⟩
  obtain heq | ⟨hid, hnone, now, summary, hsummary, hfound⟩ := h.summary id
  · obtain heq' | ⟨hid, hnone, now, summary, hsummary, hfound⟩ := h'.summary id
    · exact .inl (heq'.trans heq)
    · rw [h.ofJob] at hsummary
      exact .inr ⟨hid, heq ▸ hnone, now, summary, hsummary, hfound⟩
  · exact .inr ⟨hid, hnone, now, summary, hsummary, h'.keeps hfound⟩

theorem put {now : Instant} (hmem : id ∈ ids) (hnone : u.summary? id = none)
    (h : summarize id (u.ofJob id) now = .ok (some summary)) :
    Filled ids u (u.putSummary summary) := by
  refine ⟨rfl, rfl, fun other => ?_⟩
  obtain ⟨-, hid, -⟩ := of_summarize h
  rw [Gained, summary?_putSummary, hid]
  by_cases hother : id = other
  · subst hother
    exact .inr ⟨hmem, hnone, now, summary, h, if_pos rfl⟩
  · exact .inl (if_neg hother)

end Filled

end Usage.Tables

namespace Telemetry

open Usage (Tables)
open Usage.Tables (Filled Gained not_owes_of_some owes_iff)

variable {σ α : Type} {t : Telemetry σ} {p : Parts σ} {s s' : σ} {id : JobId} {gained : Bool}
  {jobs : List Job} {n : Nat}

/-! ## One job -/

namespace InMemory

variable (h : t.InMemory p)
include h

/-- A job with a summary, and one without snapshots, are passed over. Else the job gains a summary,
unless it cannot be computed. -/
theorem summarizeJob_cases (id : JobId) (s : σ) :
    (∃ summary, (p.usage.get s).summary? id = some summary ∧
      t.summarizeJob id s = .ok false s) ∨
    ∃ now s', p.Same s s' ∧ (p.usage.get s).summary? id = none ∧
      match Usage.summarize id ((p.usage.get s).ofJob id) now with
      | .error f => t.summarizeJob id s = .error (.fault f) s'
      | .ok none => t.summarizeJob id s = .ok false s'
      | .ok (some summary) => t.summarizeJob id s =
          .ok true (p.usage.set ((p.usage.get s).putSummary summary) s') := by
  unfold summarizeJob
  rw [Action.bind_of_ok (h.summary?_apply s id)]
  cases hfound : (p.usage.get s).summary? id with
  | some summary => exact .inl ⟨summary, rfl, rfl⟩
  | none =>
    obtain ⟨now, s', hclock, -, hsame⟩ := h.clock s
    refine .inr ⟨now, s', hsame, rfl, ?_⟩
    dsimp only
    rw [Action.bind_of_ok (Action.attempt_of_ok (h.ofJob_apply s id))]
    dsimp only
    rw [Action.bind_of_ok hclock]
    cases hsum : Usage.summarize id ((p.usage.get s).ofJob id) now with
    | error f => rfl
    | ok found =>
      cases found with
      | none => rfl
      | some summary =>
        rw [Action.ofChecked, Action.bind_of_ok (Action.pure_apply (some summary) s')]
        dsimp only
        rw [Action.bind_of_ok (h.putSummary_apply s' summary), hsame.usage]
        rfl

theorem summarizeJob_filled {ids : List JobId} (hid : id ∈ ids) (s : σ) :
    p.jobs.get ((t.summarizeJob id).after s) = p.jobs.get s ∧
      Filled ids (p.usage.get s) (p.usage.get ((t.summarizeJob id).after s)) := by
  obtain ⟨summary, -, hrun⟩ | ⟨now, s', hsame, hnone, hrun⟩ := h.summarizeJob_cases id s
  · rw [Action.after_of_ok hrun]
    exact ⟨rfl, .refl _ _⟩
  split at hrun
  next f hsum =>
    rw [Action.after_of_error hrun, hsame.usage]
    exact ⟨hsame.jobs, .refl _ _⟩
  next hsum =>
    rw [Action.after_of_ok hrun, hsame.usage]
    exact ⟨hsame.jobs, .refl _ _⟩
  next summary hsum =>
    rw [Action.after_of_ok hrun, h.apart, h.usageLawful.get_set]
    exact ⟨hsame.jobs, .put hid hnone hsum⟩

/-- A job gains a summary if it is owed one, and then it is not. -/
theorem summarizeJob_ok (hok : t.summarizeJob id s = .ok gained s') :
    gained = (p.usage.get s).owes id ∧ (p.usage.get s').owes id = false := by
  obtain ⟨summary, hfound, hrun⟩ | ⟨now, s₁, hsame, hnone, hrun⟩ := h.summarizeJob_cases id s
  · rw [hok] at hrun
    cases hrun
    exact ⟨(not_owes_of_some hfound).symm, not_owes_of_some hfound⟩
  split at hrun
  next f hsum =>
    rw [hok] at hrun
    cases hrun
  next hsum =>
    rw [hok] at hrun
    cases hrun
    have hnot : (p.usage.get s).owes id = false :=
      Bool.eq_false_iff.2 fun ho => (owes_iff.1 ho).2 (Usage.summarize_ok_none hsum)
    rw [hsame.usage, hnot]
    exact ⟨rfl, rfl⟩
  next summary hsum =>
    rw [hok] at hrun
    cases hrun
    obtain ⟨hrows, hid, -⟩ := Usage.of_summarize hsum
    have hfound : ((p.usage.get s).putSummary summary).summary? id = some summary := by
      rw [Tables.summary?_putSummary, if_pos hid]
    rw [h.usageLawful.get_set]
    exact ⟨(owes_iff.2 ⟨hnone, hrows⟩).symm, not_owes_of_some hfound⟩

/-- Nothing comes of a job that is owed no summary. -/
theorem summarizeJob_of_not_owes (hno : (p.usage.get s).owes id = false) :
    ∃ s', t.summarizeJob id s = .ok false s' ∧ p.Same s s' := by
  obtain ⟨summary, -, hrun⟩ | ⟨now, s', hsame, hnone, hrun⟩ := h.summarizeJob_cases id s
  · exact ⟨s, hrun, .refl s⟩
  have hrows : (p.usage.get s).ofJob id = [] := by
    by_contra hne
    rw [owes_iff.2 ⟨hnone, hne⟩] at hno
    cases hno
  rw [hrows] at hrun
  exact ⟨s', hrun, hsame⟩

/-- With snapshots of kept dates there is always an answer. -/
theorem summarizeJob_ends (hkept : ∀ x ∈ (p.usage.get s).snapshots, x.timestamp.isKept = true)
    (id : JobId) : ∃ gained s', t.summarizeJob id s = .ok gained s' := by
  obtain ⟨summary, -, hrun⟩ | ⟨now, s', hsame, hnone, hrun⟩ := h.summarizeJob_cases id s
  · exact ⟨_, _, hrun⟩
  split at hrun
  next f hsum =>
    cases hrows : (p.usage.get s).ofJob id with
    | nil =>
      rw [hrows] at hsum
      cases hsum
    | cons r rest =>
      have hdates : ∀ x ∈ (p.usage.get s).ofJob id, x.timestamp.isKept = true :=
        fun x hx => hkept x (Tables.mem_ofJob.1 hx).1
      obtain ⟨summary, hsome⟩ :=
        Usage.exists_summarize (hrows ▸ List.cons_ne_nil r rest) hdates id now
      rw [hsome] at hsum
      cases hsum
  next => exact ⟨_, _, hrun⟩
  next => exact ⟨_, _, hrun⟩

end InMemory

/-! ## A pass -/

/-- The pass breaks off at a check that finds it called off. -/
def BreaksOff (t : Telemetry σ) (x : Action σ α) (s : σ) : Prop :=
  ∃ r s', t.calledOff r = .ok true s' ∧ x s = .error (.error .passCalledOff) s'

theorem keeps_summarizeJobs {I : σ → Prop} (hoff : Action.Keeps I t.calledOff)
    (hjob : ∀ j ∈ jobs, Action.Keeps I (t.summarizeJob j.id)) :
    Action.Keeps I (t.summarizeJobs jobs) := by
  induction jobs with
  | nil => exact Action.keeps_pure 0
  | cons j rest ih =>
    refine Action.keeps_bind hoff fun off => ?_
    split
    · exact Action.keeps_fail _
    refine Action.keeps_bind (hjob j List.mem_cons_self) fun gained => ?_
    exact Action.keeps_bind (ih fun k hk => hjob k (List.mem_cons_of_mem j hk)) fun n =>
      Action.keeps_pure _

namespace InMemory

variable (h : t.InMemory p)
include h

/-- However a pass ends, some of its jobs have gained summaries and all else is as it was. -/
theorem summarizeJobs_filled (jobs : List Job) (s : σ) :
    p.jobs.get ((t.summarizeJobs jobs).after s) = p.jobs.get s ∧
      Filled (jobs.map (·.id)) (p.usage.get s) (p.usage.get ((t.summarizeJobs jobs).after s)) := by
  let I : σ → Prop := fun r => p.jobs.get r = p.jobs.get s ∧
    Filled (jobs.map (·.id)) (p.usage.get s) (p.usage.get r)
  have hoff : Action.Keeps I t.calledOff := by
    rintro r ⟨hjobs, hfilled⟩
    obtain ⟨off, r', hrun, hsame⟩ := h.calledOff r
    rw [Action.after_of_ok hrun]
    exact ⟨hsame.jobs.trans hjobs, hsame.usage ▸ hfilled⟩
  have hjob : ∀ j ∈ jobs, Action.Keeps I (t.summarizeJob j.id) := by
    rintro j hj r ⟨hjobs, hfilled⟩
    obtain ⟨hjobs', hfilled'⟩ := h.summarizeJob_filled (List.mem_map_of_mem hj) r
    exact ⟨hjobs'.trans hjobs, hfilled.trans hfilled'⟩
  exact keeps_summarizeJobs hoff hjob s ⟨rfl, .refl _ _⟩

/-- A pass that ends well leaves no summary owed, and counts those that were. -/
theorem summarizeJobs_ok (hok : t.summarizeJobs jobs s = .ok n s') :
    (∀ j ∈ jobs, (p.usage.get s').owes j.id = false) ∧
      ((jobs.map (·.id)).Nodup →
        n = (jobs.filter fun j => (p.usage.get s).owes j.id).length) := by
  induction jobs generalizing s n with
  | nil =>
    obtain ⟨rfl, rfl⟩ := Action.pure_ok.1 hok
    exact ⟨fun _ hj => absurd hj List.not_mem_nil, fun _ => rfl⟩
  | cons j rest ih =>
    obtain ⟨off, s₁, hoff, hok⟩ := Action.bind_ok.1 hok
    have hsame := h.same_of_calledOff hoff
    cases off with
    | true => cases hok
    | false =>
      obtain ⟨gained, s₂, hjob, hok⟩ := Action.bind_ok.1 hok
      obtain ⟨others, s₃, hrest, hok⟩ := Action.bind_ok.1 hok
      obtain ⟨rfl, rfl⟩ := Action.pure_ok.1 hok
      obtain ⟨rfl, hgiven⟩ := h.summarizeJob_ok hjob
      obtain ⟨hgivens, hcount⟩ := ih hrest
      obtain ⟨-, hfilled⟩ := h.summarizeJob_filled (List.mem_singleton_self j.id) s₁
      obtain ⟨-, hfilled'⟩ := h.summarizeJobs_filled rest s₂
      rw [Action.after_of_ok hjob, hsame.usage] at hfilled
      rw [Action.after_of_ok hrest] at hfilled'
      refine ⟨List.forall_mem_cons.2 ⟨hfilled'.not_owes hgiven, hgivens⟩, fun hn => ?_⟩
      rw [List.map_cons, List.nodup_cons] at hn
      have hrests : rest.filter (fun k => (p.usage.get s₂).owes k.id) =
          rest.filter fun k => (p.usage.get s).owes k.id := by
        refine List.filter_congr fun k hk => hfilled.owes_of_not_mem fun hid => ?_
        rw [List.mem_singleton] at hid
        exact hn.1 (hid ▸ List.mem_map_of_mem hk)
      rw [hcount hn.2, hrests, hsame.usage, List.filter_cons]
      split
      · rw [List.length_cons, Nat.add_comm]
      · rw [Nat.zero_add]

/-- With snapshots of kept dates a pass ends well, unless it is called off. -/
theorem summarizeJobs_ends (hkept : ∀ x ∈ (p.usage.get s).snapshots, x.timestamp.isKept = true)
    (jobs : List Job) :
    (∃ n s', t.summarizeJobs jobs s = .ok n s') ∨ t.BreaksOff (t.summarizeJobs jobs) s := by
  induction jobs generalizing s with
  | nil => exact .inl ⟨0, s, rfl⟩
  | cons j rest ih =>
    obtain ⟨off, s₁, hoff, hsame⟩ := h.calledOff s
    rw [BreaksOff, summarizeJobs, Action.bind_of_ok hoff]
    cases off with
    | true => exact .inr ⟨s, s₁, hoff, rfl⟩
    | false =>
      rw [← hsame.usage] at hkept
      obtain ⟨gained, s₂, hjob⟩ := h.summarizeJob_ends hkept j.id
      obtain ⟨-, hfilled⟩ := h.summarizeJob_filled (List.mem_singleton_self j.id) s₁
      rw [Action.after_of_ok hjob] at hfilled
      rw [← hfilled.snapshots] at hkept
      rw [if_neg Bool.false_ne_true, Action.bind_of_ok hjob]
      obtain ⟨n, s₃, hrest⟩ | ⟨r, s₃, hoff, hrest⟩ := ih hkept
      · exact .inl ⟨_, s₃, Action.bind_of_ok hrest⟩
      · exact .inr ⟨r, s₃, hoff, Action.bind_of_error hrest⟩

/-- Where no summary is owed, a pass changes nothing. -/
theorem summarizeJobs_of_not_owes (hno : ∀ j ∈ jobs, (p.usage.get s).owes j.id = false) :
    p.Same s ((t.summarizeJobs jobs).after s) ∧
      ((∃ s', t.summarizeJobs jobs s = .ok 0 s') ∨ t.BreaksOff (t.summarizeJobs jobs) s) := by
  induction jobs generalizing s with
  | nil => exact ⟨.refl s, .inl ⟨s, rfl⟩⟩
  | cons j rest ih =>
    obtain ⟨hj, hrest⟩ := List.forall_mem_cons.1 hno
    obtain ⟨off, s₁, hoff, hsame⟩ := h.calledOff s
    rw [BreaksOff, summarizeJobs, Action.after, Action.bind_of_ok hoff]
    cases off with
    | true => exact ⟨hsame, .inr ⟨s, s₁, hoff, rfl⟩⟩
    | false =>
      rw [← hsame.usage] at hj hrest
      obtain ⟨s₂, hjob, hsame'⟩ := h.summarizeJob_of_not_owes hj
      rw [← hsame'.usage] at hrest
      rw [if_neg Bool.false_ne_true, Action.bind_of_ok hjob]
      obtain ⟨hsame'', ⟨s₃, hrun⟩ | ⟨r, s₃, hoff, hrun⟩⟩ := ih hrest
      · rw [Action.after_of_ok hrun] at hsame''
        rw [Action.bind_of_ok hrun]
        exact ⟨(hsame.trans hsame').trans hsame'', .inl ⟨s₃, rfl⟩⟩
      · rw [Action.after_of_error hrun] at hsame''
        rw [Action.bind_of_error hrun]
        exact ⟨(hsame.trans hsame').trans hsame'', .inr ⟨r, s₃, hoff, rfl⟩⟩

end InMemory

end Telemetry

end GpuCluster
