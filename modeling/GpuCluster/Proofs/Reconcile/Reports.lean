import GpuCluster.Proofs.Reconcile.Exact
import GpuCluster.Proofs.Runs

/-!
# Each end of a job is reported once

* `Job.Archive.Unwinds` : jobs may have left running, and none has been put back;
* `Registry.Unwinds` : so it is with whatever is written while an executor answers;
* `Daemon.Spends` : a report uses up that its job was running; `check_spends`, `pass_spends`;
* `Reconcile.Round` : passes and other writes, `rounds_report` : how often they report a job;
* `reconcile_exact_once` : a pass is exact, and any passes report a job once for each time that it
  was running.
-/

namespace GpuCluster

/-! ## Leaving running -/

namespace Job.Archive

variable {a b c : Archive} {id : JobId} {now : Instant} {status : JobStatus}
  {reason : Option String}

/-- One if the job is stored as running, nothing else. -/
def runningCount (a : Archive) (id : JobId) : Nat :=
  if a.statusOf? id = some .running then 1 else 0

/-- Jobs may have left running, and none has been put back. -/
structure Unwinds (a b : Archive) : Prop where
  indexed : b.Indexed
  running : ∀ id, b.statusOf? id = some .running → a.statusOf? id = some .running

theorem Unwinds.refl (ha : a.Indexed) : a.Unwinds a := ⟨ha, fun _ h => h⟩

theorem Unwinds.trans (hab : a.Unwinds b) (hbc : b.Unwinds c) : a.Unwinds c :=
  ⟨hbc.indexed, fun id h => hab.running id (hbc.running id h)⟩

theorem Unwinds.runningCount_le (h : a.Unwinds b) (id : JobId) :
    b.runningCount id ≤ a.runningCount id := by
  unfold runningCount
  by_cases hb : b.statusOf? id = some .running
  · exact Nat.le_of_eq (by rw [if_pos hb, if_pos (h.running id hb)])
  · rw [if_neg hb]
    exact Nat.zero_le _

/-- A job that gets an end is not running any more, and the others are as before. -/
theorem Indexed.unwinds_advance (h : a.Indexed) (id : JobId) (now : Instant)
    (reason : Option String) (hend : status ≠ .running) : a.Unwinds (a.modify id (Job.advance now status reason)) ∧
      (a.modify id (Job.advance now status reason)).runningCount id = 0 := by
  have hstatus := fun other => h.statusOf?_advance now status reason id other
  have hself : (a.modify id (Job.advance now status reason)).statusOf? id ≠ some .running := by
    rw [hstatus]
    cases a.statusOf? id with
    | none => exact nofun
    | some _ => simpa using hend
  refine ⟨⟨h.advance, fun other hrun => ?_⟩, if_neg hself⟩
  have hne : other ≠ id := by
    rintro rfl
    exact hself hrun
  rw [hstatus] at hrun
  simpa [hne] using hrun

end Job.Archive

/-! ## One pass -/

section Pass
variable {ε : Type} {registry : Executor.Registry (Executor (Daemon ε))} {d d' : Daemon ε}
  {now : Instant} {j : Job} {fs : List Reconcile.Finished} {id : JobId}

/-- While an executor answers, others may write, but no job is put back to running. -/
def Executor.Registry.Unwinds (registry : Registry (Executor (Daemon ε))) : Prop :=
  ∀ jobType x, registry.find? jobType = some x → ∀ id, ∀ d : Daemon ε, d.jobs.Indexed →
    d.jobs.Unwinds (Action.after (x.status id) d).jobs ∧
    d.jobs.Unwinds (Action.after (x.release id) d).jobs

theorem Executor.Registry.Unwinds.calls (h : registry.Unwinds) (j : Job) (hi : d.jobs.Indexed) :
    d.jobs.Unwinds (Action.after (registry.status j) d).jobs ∧
    d.jobs.Unwinds (Action.after (registry.release j) d).jobs := by
  cases hx : registry.find? j.jobType with
  | none =>
    rw [status_of_none hx, release_of_none hx]
    exact ⟨.refl hi, .refl hi⟩
  | some x =>
    rw [status_of_find? hx, release_of_find? hx]
    exact h _ x hx j.id d hi

namespace Action

variable {σ α : Type}

theorem after_attempt (x : Action σ α) (s : σ) : after (attempt x) s = after x s := by
  unfold after attempt
  cases x s with
  | ok a t => rfl
  | error f t => cases f <;> rfl

theorem after_tolerate (x : Action σ Unit) (s : σ) : after (tolerate x) s = after x s := by
  rw [← after_attempt x]
  cases h : attempt x s with
  | ok r t =>
    have htolerate : tolerate x s = .ok () t := bind_of_ok h
    rw [after_of_ok htolerate, after_of_ok h]
  | error f t =>
    have htolerate : tolerate x s = .error f t := bind_of_error h
    rw [after_of_error htolerate, after_of_error h]

end Action

namespace Daemon

open Reconcile (Finished)

/-- How often a job is reported. -/
def reportCount (fs : List Finished) (id : JobId) : Nat := (fs.map (·.id)).count id

theorem reportCount_append (fs gs : List Finished) (id : JobId) :
    reportCount (fs ++ gs) id = reportCount fs id + reportCount gs id := by
  unfold reportCount
  rw [List.map_append, List.count_append]

/-- A report uses up that its job was running. -/
structure Spends (fs : List Finished) (a b : Job.Archive) : Prop where
  indexed : b.Indexed
  count : ∀ id, reportCount fs id + b.runningCount id ≤ a.runningCount id

namespace Spends

variable {a b c : Job.Archive} {gs : List Finished}

theorem of_unwinds (h : a.Unwinds b) : Spends [] a b :=
  ⟨h.indexed, fun id => (Nat.zero_add _).symm ▸ h.runningCount_le id⟩

theorem trans (hab : Spends fs a b) (hbc : Spends gs b c) : Spends (fs ++ gs) a c := by
  refine ⟨hbc.indexed, fun id => ?_⟩
  have hfirst := hab.count id
  have hsecond := hbc.count id
  rw [reportCount_append]
  omega

/-- A running job that gets an end may be reported. -/
theorem advance {status : JobStatus} (hi : a.Indexed) (hrun : a.statusOf? id = some .running)
    (hend : status ≠ .running) (now : Instant) (reason : Option String) :
    Spends [⟨id, status⟩] a (a.modify id (Job.advance now status reason)) := by
  obtain ⟨hunwinds, hzero⟩ := hi.unwinds_advance id now reason hend
  refine ⟨hunwinds.indexed, fun other => ?_⟩
  by_cases hid : other = id
  · subst hid
    have hbefore : a.runningCount other = 1 := if_pos hrun
    have hone : reportCount [⟨other, status⟩] other = 1 := List.count_singleton_self
    omega
  · have hnone : reportCount [⟨id, status⟩] other = 0 :=
      List.count_eq_zero.2 fun hmem => hid (List.mem_singleton.1 hmem)
    have hafter := hunwinds.runningCount_le other
    omega

end Spends

/-- A job that is reported was running before and is not running afterwards. -/
theorem finish_spends {r : Option Finished} {status : JobStatus} (hu : registry.Unwinds)
    (hi : d.jobs.Indexed) (hend : status ≠ .running)
    (h : Reconcile.finish registry jobStore now j status d = .ok r d') :
    Spends r.toList d.jobs d'.jobs := by
  obtain ⟨answer, u, hattempt, hthen⟩ := Action.bind_ok.1 h
  rcases Action.attempt_ok hattempt with ⟨moved, rfl, hwrite⟩ | ⟨e, rfl, hwrite⟩
  · obtain ⟨a, hrecord, rfl⟩ := Action.zoom_ok.1 hwrite
    obtain ⟨_, w, hrelease, hp⟩ := Action.bind_ok.1 hthen
    obtain ⟨rfl, rfl⟩ := Action.pure_ok.1 hp
    have hreleased : a.Indexed → Spends [] a w.jobs := by
      intro ha
      have hcall := (hu.calls (d := jobsPart.set a d) j ha).2
      rw [← Action.after_tolerate, Action.after_of_ok hrelease] at hcall
      exact .of_unwinds hcall
    obtain ⟨k, hf, ⟨hrun, rfl, rfl⟩ | ⟨-, rfl, rfl⟩⟩ := Job.Archive.recordIf_ok hrecord
    · have hstatus : d.jobs.statusOf? j.id = some .running :=
        (Job.Archive.statusOf?_of_find? hf).trans (congrArg some hrun)
      have hspends := Spends.advance hi hstatus hend now (Reconcile.reasonFor status)
      exact hspends.trans (hreleased hspends.indexed)
    · exact hreleased hi
  · obtain ⟨a, hrecord, rfl⟩ := Action.zoom_error.1 hwrite
    obtain ⟨rfl, rfl⟩ := Action.pure_ok.1 hthen
    obtain ⟨-, rfl⟩ := Job.Archive.recordIf_error hrecord
    exact .of_unwinds (.refl hi)

theorem check_spends {r : Option Finished} (hu : registry.Unwinds) (hi : d.jobs.Indexed)
    (h : Reconcile.check registry jobStore now j d = .ok r d') :
    Spends r.toList d.jobs d'.jobs := by
  obtain ⟨answer, u, hask, hrest⟩ := Action.bind_ok.1 h
  have hasked := (hu.calls j hi).1
  rw [← Action.after_attempt, Action.after_of_ok hask] at hasked
  cases answer with
  | error e =>
    obtain ⟨rfl, rfl⟩ := Action.pure_ok.1 hrest
    exact .of_unwinds hasked
  | ok status =>
    by_cases hterm : status.isTerminal = true
    · simp only [hterm, if_true] at hrest
      have hend : status ≠ .running := by
        rintro rfl
        cases hterm
      exact (Spends.of_unwinds hasked).trans (finish_spends hu hasked.indexed hend hrest)
    · simp only [hterm] at hrest
      obtain ⟨rfl, rfl⟩ := Action.pure_ok.1 hrest
      exact .of_unwinds hasked

theorem checkAll_spends {js : List Job} (hu : registry.Unwinds) (hi : d.jobs.Indexed)
    (h : Reconcile.checkAll registry jobStore now js d = .ok fs d') :
    Spends fs d.jobs d'.jobs := by
  induction js generalizing d fs with
  | nil =>
    obtain ⟨rfl, rfl⟩ := Action.pure_ok.1 h
    exact .of_unwinds (.refl hi)
  | cons j rest ih =>
    obtain ⟨r, u, hfirst, hrest⟩ := Action.bind_ok.1 h
    obtain ⟨gs, v, hall, hp⟩ := Action.bind_ok.1 hrest
    obtain ⟨rfl, rfl⟩ := Action.pure_ok.1 hp
    have hspends := check_spends hu hi hfirst
    exact hspends.trans (ih hspends.indexed hall)

theorem pass_spends (hu : registry.Unwinds) (hi : d.jobs.Indexed)
    (h : Reconcile.pass registry jobStore now d = .ok fs d') : Spends fs d.jobs d'.jobs := by
  obtain ⟨js, u, hlist, hall⟩ := Action.bind_ok.1 h
  obtain rfl := (Action.reads_zoom jobsPart_lawful
    (Job.Archive.withStatus_reads [.running])).eq_of_ok hlist
  exact checkAll_spends hu hi hall

end Daemon

end Pass

/-! ## Any number of passes -/

namespace Reconcile

open Daemon (jobStore reportCount)

variable {ε : Type} {d d' : Daemon ε} {rounds : List Round} {id : JobId}

/-- A pass with its reports, or another write with the jobs that it sets running. -/
inductive Round where
  | pass (finished : List Finished)
  | write (started : List JobId)

namespace Round

def reports : Round → List Finished
  | pass finished => finished
  | write _ => []

def started : Round → List JobId
  | pass _ => []
  | write started => started

end Round

/-- One round. The executors of each pass may be others, and may answer anything. -/
inductive Step (d : Daemon ε) : Round → Daemon ε → Prop
  | pass {registry : Executor.Registry (Executor (Daemon ε))} {now : Instant}
      {fs : List Finished} {d' : Daemon ε} (unwinds : registry.Unwinds)
      (passed : Reconcile.pass registry jobStore now d = .ok fs d') : Step d (.pass fs) d'
  | write {started : List JobId} {d' : Daemon ε} (indexed : d'.jobs.Indexed)
      (running : ∀ id, d'.jobs.statusOf? id = some .running →
        d.jobs.statusOf? id = some .running ∨ id ∈ started) : Step d (.write started) d'

/-- A report uses up that its job was running, and only a write that sets it running makes up
for it. -/
theorem Step.reports {e : Round} (hstep : Step d e d') (hi : d.jobs.Indexed) : d'.jobs.Indexed ∧
    ∀ id, reportCount e.reports id + d'.jobs.runningCount id ≤
      d.jobs.runningCount id + e.started.count id := by
  cases hstep with
  | pass unwinds passed =>
    have hspends := Daemon.pass_spends unwinds hi passed
    exact ⟨hspends.indexed, fun id => Nat.le_trans (hspends.count id) (Nat.le_add_right ..)⟩
  | @write started _ indexed running =>
    refine ⟨indexed, fun id => ?_⟩
    show 0 + d'.jobs.runningCount id ≤ d.jobs.runningCount id + started.count id
    unfold Job.Archive.runningCount
    by_cases hrun : d'.jobs.statusOf? id = some .running
    · rcases running id hrun with hbefore | hstarted
      · rw [if_pos hrun, if_pos hbefore]
        omega
      · have hpos := List.count_pos_iff.2 hstarted
        rw [if_pos hrun]
        omega
    · rw [if_neg hrun]
      omega

/-- A job is reported at most once for each time that it was running. -/
theorem rounds_report (hi : d.jobs.Indexed) (h : Runs Step d rounds d') (id : JobId) :
    reportCount (rounds.flatMap Round.reports) id + d'.jobs.runningCount id ≤
      d.jobs.runningCount id + (rounds.flatMap Round.started).count id := by
  have hboth : d'.jobs.Indexed ∧ reportCount (rounds.flatMap Round.reports) id +
      d'.jobs.runningCount id ≤
        d.jobs.runningCount id + (rounds.flatMap Round.started).count id := by
    refine h.invariant (I := fun es t => t.jobs.Indexed ∧
      reportCount (es.flatMap Round.reports) id + t.jobs.runningCount id ≤
        d.jobs.runningCount id + (es.flatMap Round.started).count id) ⟨hi, ?_⟩ ?_
    · exact Nat.le_of_eq (Nat.zero_add _)
    · rintro es e t u ⟨ht, hsofar⟩ hstep
      obtain ⟨hu, hone⟩ := hstep.reports ht
      have hround := hone id
      refine ⟨hu, ?_⟩
      rw [List.flatMap_append, List.flatMap_append, List.flatMap_singleton,
        List.flatMap_singleton, Daemon.reportCount_append, List.count_append]
      omega
  exact hboth.2

/-! ## Exact passes -/

open Executor (Call Noted Registry)

section Exact
variable {r : Registry (Executor ε)} {answers : JobId → Except Error JobStatus} {now : Instant}
  {n n' : Daemon (Noted ε)} {fs : List Finished} {p : Daemon.Plan (Noted ε)}

theorem ids_reports (ended : Job → Option JobStatus) (js : List Job) :
    (js.filterMap fun j => (ended j).map (Finished.mk j.id)).map (·.id) =
      (js.filter fun j => (ended j).isSome).map (·.id) := by
  induction js with
  | nil => rfl
  | cons j rest ih =>
    rw [List.filterMap_cons, List.filter_cons]
    cases ended j with
    | none => exact ih
    | some status => exact congrArg (j.id :: ·) ih

/-- A job is reported once at most. -/
theorem Exact.nodup (h : Exact r now answers n fs n') (hi : n.jobs.Indexed) :
    (fs.map (·.id)).Nodup := by
  rw [h.reports, ids_reports fun j => ending? r (answers j.id) j]
  exact hi.nodup.sublist (List.filter_sublist.map Job.id)

/-- The executors are told to forget the jobs that are reported, in this order, and no others. -/
theorem Exact.released (h : Exact r now answers n fs n') :
    n'.executors.calls.filterMap Call.released? =
      n.executors.calls.filterMap Call.released? ++ fs.map (·.id) := by
  rw [h.calls, h.reports, ids_reports fun j => ending? r (answers j.id) j, List.filterMap_append]
  refine congrArg _ ?_
  induction n.jobs.toList with
  | nil => rfl
  | cons j rest ih =>
    rw [List.flatMap_cons, List.filterMap_append, ih, List.filter_cons]
    have hcalls : (callsFor r (answers j.id) j).filterMap Call.released? =
        (ending? r (answers j.id) j).toList.map fun _ => j.id := by
      unfold callsFor
      split
      next =>
        cases ending? r (answers j.id) j <;> rfl
      next hno =>
        rw [ending?, if_neg hno]
        rfl
    rw [hcalls]
    cases ending? r (answers j.id) j <;> rfl

/-- Reconciling is exact and reports each end once. A pass over any jobs, with any executors: the
records of the running jobs whose executor knows of their end are closed and no others change;
these jobs are reported in order of creation, each once, and they are the ones that executors are
told to forget. Over any passes and other writes, whatever executors answer, a job is reported at
most once for each time that it was running, so once at most if it is never set running. -/
theorem reconcile_exact_once (hr : r.Responds) (hp : p.registry = r.noted) (now : Instant)
    (hi : n.jobs.Indexed) :
    (∃ answers fs n', Daemon.reconcile p now n = .ok fs n' ∧ Exact r now answers n fs n' ∧
      (fs.map (·.id)).Nodup ∧ n'.executors.calls.filterMap Call.released? =
        n.executors.calls.filterMap Call.released? ++ fs.map (·.id)) ∧
    ∀ (d d' : Daemon ε) (rounds : List Round), d.jobs.Indexed → Runs Step d rounds d' → ∀ id,
      reportCount (rounds.flatMap Round.reports) id + d'.jobs.runningCount id ≤
        d.jobs.runningCount id + (rounds.flatMap Round.started).count id ∧
      (id ∉ rounds.flatMap Round.started →
        reportCount (rounds.flatMap Round.reports) id ≤ 1) := by
  constructor
  · obtain ⟨answers, fs, n', hpass, hexact⟩ := Daemon.reconcile_noted hp hr now hi
    exact ⟨answers, fs, n', hpass, hexact, hexact.nodup hi, hexact.released⟩
  · intro d d' rounds hd hrun id
    have hcount := rounds_report hd hrun id
    refine ⟨hcount, fun hnever => ?_⟩
    have hrunning : d.jobs.runningCount id ≤ 1 := by
      unfold Job.Archive.runningCount
      split <;> omega
    rw [List.count_eq_zero.2 hnever] at hcount
    omega

end Exact

/-- An executor whose jobs have all failed. -/
def failing : Executor Unit where
  name := "failing"
  supports _ := true
  execute _ := pure ()
  cancel _ := pure ()
  status _ := pure .failed
  logs _ := pure ""
  release _ := Action.fail (.unavailable "no machine")

def failingRegistry : Registry (Executor Unit) := Registry.empty.register Job.batchType failing

def failingPlan : Daemon.Plan (Noted Unit) where
  settings := {}
  registry := failingRegistry.noted
  strategies := .empty
  backend := none
  cluster := none

theorem failingRegistry_responds : failingRegistry.Responds := by
  intro jobType x hx id
  rw [failingRegistry, Registry.find?_register] at hx
  split at hx
  next =>
    obtain rfl := Option.some.inj hx
    exact ⟨Action.answers_pure _, Action.answers_fail _⟩
  next => cases hx

def lostJob : Job := { id := ⟨9#128⟩, status := .running, createdAt := ⟨0, 0⟩ }

/-- A failed job is closed, reported and released once, even if its release fails. -/
theorem reconcile_exact_once_failed : ∃ (n n' : Daemon (Noted Unit)), n.jobs.Indexed ∧
    failingRegistry.Responds ∧ failingPlan.registry = failingRegistry.noted ∧
    n.jobs.toList = [lostJob] ∧
    Daemon.reconcile failingPlan ⟨5, 0⟩ n = .ok [⟨lostJob.id, .failed⟩] n' ∧
    n'.jobs.toList = [close ⟨5, 0⟩ .failed lostJob] ∧
    n'.executors.calls =
      [.status "batch" lostJob.id (.ok .failed), .release "batch" lostJob.id] := by
  obtain ⟨a, ha⟩ := Job.Archive.exists_add_empty lostJob
  have hindexed : a.Indexed := Job.Archive.indexed_empty.add ha
  have hlist : a.toList = [lostJob] := Job.Archive.toList_add ha
  let n : Daemon (Noted Unit) := { jobs := a, executors := ⟨(), []⟩ }
  obtain ⟨⟨answers, fs, n', hpass, hexact, -, -⟩, -⟩ := reconcile_exact_once
    failingRegistry_responds (p := failingPlan) rfl ⟨5, 0⟩ (n := n) hindexed
  have hmem : lostJob ∈ n.jobs.toList := hlist ▸ List.mem_singleton_self _
  obtain ⟨_, _, hgiven⟩ := hexact.given lostJob hmem rfl failing rfl
  have hanswer : answers lostJob.id = .ok .failed := by
    have hfailed : ∀ u, Action.attempt (failing.status lostJob.id) u = .ok (.ok .failed) u :=
      fun _ => rfl
    rw [hfailed] at hgiven
    exact (EStateM.Result.ok.inj hgiven).1.symm
  have hrecords := hexact.records
  have hreports := hexact.reports
  have hcalls := hexact.calls
  have hstored : n.jobs.toList = [lostJob] := hlist
  rw [hstored, List.map_singleton, hanswer] at hrecords
  rw [hstored, List.filterMap_cons, hanswer] at hreports
  rw [hstored, List.flatMap_singleton, hanswer] at hcalls
  refine ⟨n, n', hindexed, failingRegistry_responds, rfl, hlist, ?_, hrecords, hcalls⟩
  rw [hpass, hreports]
  rfl

end Reconcile

end GpuCluster
