import Mathlib.Data.List.TakeWhile
import Mathlib.Logic.Function.Iterate
import GpuCluster.Proofs.Telemetry.Passes

/-!
# Passes over a store that fails for some jobs

* `Usage.Outage` : which calls to the store fail, job by job; `Usage.Store.under` : the store in it;
* `Outage.due` : a job is owed a summary, and its snapshots can be read;
* `Outage.stops` : the error with which a job ends a pass, `Outage.reached` : the jobs before it;
* `InMemory.summarizeJob_under`, `InMemory.summarizeJobs_under` : what a pass does with one job and
  with many;
* `Served` : the jobs that are reached have what is due to them; so it is after one pass, and after
  any number of them;
* `summary_iff_not_behind` : a job gets its summary exactly if no job ahead of it ends the pass.
-/

namespace GpuCluster

namespace Usage

/-- For which jobs the calls to a store fail, and how. -/
structure Outage where
  summary? : JobId → Option Error := fun _ => none
  ofJob : JobId → Option Error := fun _ => none
  putSummary : JobId → Option Error := fun _ => none

section Store
variable {σ α : Type}

/-- Fail with this error, if there is one. -/
def Store.refuse (e? : Option Error) (x : Action σ α) : Action σ α :=
  match e? with
  | some e => Action.fail e
  | none => x

/-- The store in an outage. -/
def Store.under (store : Store σ) (o : Outage) : Store σ :=
  { store with
    summary? := fun id => refuse (o.summary? id) (store.summary? id)
    ofJob := fun id => refuse (o.ofJob id) (store.ofJob id)
    putSummary := fun summary => refuse (o.putSummary summary.jobId) (store.putSummary summary) }

end Store

namespace Outage

variable {o : Outage} {u u' : Tables} {id : JobId} {ids : List JobId} {e : Error} {j k : Job}
  {jobs : List Job}

/-- All three calls work for the job. -/
def Spares (o : Outage) (id : JobId) : Prop :=
  o.summary? id = none ∧ o.ofJob id = none ∧ o.putSummary id = none

/-- The job is owed a summary, and its snapshots can be read. -/
def due (o : Outage) (u : Tables) (id : JobId) : Bool := u.owes id && (o.ofJob id).isNone

/-- The error with which a job ends a pass. That its snapshots cannot be read does not. -/
def stops (o : Outage) (u : Tables) (id : JobId) : Option Error :=
  (o.summary? id).or (if o.due u id then o.putSummary id else none)

/-- The jobs that a pass comes to before one that ends it. -/
def reached (o : Outage) (u : Tables) (jobs : List Job) : List Job :=
  jobs.takeWhile fun j => (o.stops u j.id).isNone

/-- The jobs before the one with this identity. -/
def ahead (id : JobId) (jobs : List Job) : List Job := jobs.takeWhile fun j => j.id != id

theorem due_congr (h : u'.owes id = u.owes id) : o.due u' id = o.due u id := by rw [due, h, due]

theorem stops_congr (h : u'.owes id = u.owes id) : o.stops u' id = o.stops u id := by
  rw [stops, due_congr h, stops]

theorem stops_of_not_due (h : o.due u id = false) : o.stops u id = o.summary? id := by
  rw [stops, h, if_neg Bool.false_ne_true, Option.or_none]

/-- A job that has got what was due to it stops no pass that it did not stop before. -/
theorem stops_of_given (hstop : o.stops u id = none) (h : o.due u' id = false) :
    o.stops u' id = none := by
  rw [stops_of_not_due h]
  exact (Option.or_eq_none_iff.1 hstop).1

theorem Spares.stops (h : o.Spares id) (u : Tables) : o.stops u id = none := by
  rw [Outage.stops, h.1, h.2.2, ite_self]
  rfl

theorem stops_of_mem_reached (h : j ∈ o.reached u jobs) : o.stops u j.id = none :=
  Option.isNone_iff_eq_none.1
    (List.mem_takeWhile_imp (p := fun j : Job => (o.stops u j.id).isNone) h)

theorem reached_cons_of_none (h : o.stops u j.id = none) :
    o.reached u (j :: jobs) = j :: o.reached u jobs :=
  List.takeWhile_cons_of_pos (by rw [h]; rfl)

theorem reached_cons_of_some (h : o.stops u j.id = some e) : o.reached u (j :: jobs) = [] :=
  List.takeWhile_cons_of_neg (by rw [h]; exact Bool.false_ne_true)

/-- Which jobs are reached, and the first error, depend on what ends a pass only. -/
theorem reached_congr (h : ∀ j ∈ jobs, o.stops u' j.id = o.stops u j.id) :
    o.reached u' jobs = o.reached u jobs ∧
      (jobs.findSome? fun j => o.stops u' j.id) = jobs.findSome? fun j => o.stops u j.id := by
  induction jobs with
  | nil => exact ⟨rfl, rfl⟩
  | cons j rest ih =>
    obtain ⟨hj, hrest⟩ := List.forall_mem_cons.1 h
    obtain ⟨hreached, hfirst⟩ := ih hrest
    rw [List.findSome?_cons, List.findSome?_cons, hj, hfirst]
    cases hs : o.stops u j.id with
    | some e => exact ⟨by rw [reached_cons_of_some hs, reached_cons_of_some (hj.trans hs)], rfl⟩
    | none =>
      rw [reached_cons_of_none hs, reached_cons_of_none (hj.trans hs), hreached]
      exact ⟨rfl, rfl⟩

/-- A job is reached if nothing ahead of it ends the pass. -/
theorem mem_reached_iff (hk : k ∈ jobs) (hstop : o.stops u k.id = none) :
    k.id ∈ (o.reached u jobs).map (·.id) ↔ ∀ j ∈ ahead k.id jobs, o.stops u j.id = none := by
  induction jobs with
  | nil => cases hk
  | cons j rest ih =>
    by_cases hid : j.id = k.id
    · rw [ahead, List.takeWhile_cons_of_neg (by simp [hid]), reached_cons_of_none (hid ▸ hstop)]
      simp [hid]
    · have hmem : k ∈ rest := by
        obtain rfl | hmem := List.mem_cons.1 hk
        · exact absurd rfl hid
        · exact hmem
      rw [ahead, List.takeWhile_cons_of_pos (by simp [hid]), ← ahead, List.forall_mem_cons,
        ← ih hmem]
      cases hs : o.stops u j.id with
      | some e => simp [reached_cons_of_some hs]
      | none => simp [reached_cons_of_none hs, Ne.symm hid]

end Outage

namespace Tables

variable {u u' : Tables} {id : JobId} {ids ids' : List JobId} {summary : Summary}

theorem Filled.mono (h : Filled ids u u') (hsub : ids ⊆ ids') : Filled ids' u u' :=
  ⟨h.snapshots, h.lastId, fun id => (h.summary id).imp_right fun hg => ⟨hsub hg.1, hg.2⟩⟩

/-- A job with snapshots to which nothing is owed has a summary. -/
theorem isSome_of_not_owes (h : u.owes id = false) (hrows : u.ofJob id ≠ []) :
    (u.summary? id).isSome = true := by
  by_contra hnone
  rw [Option.not_isSome_iff_eq_none] at hnone
  rw [owes_iff.2 ⟨hnone, hrows⟩] at h
  cases h

end Tables

end Usage

namespace Telemetry

open Usage (Tables Outage)
open Usage.Tables (Filled not_owes_of_some owes_iff)

variable {σ : Type} {t : Telemetry σ} {p : Parts σ} {s s' s'' : σ} {id : JobId} {jobs : List Job}
  {o : Outage}

/-- Telemetry whose store of usage records is in an outage. -/
def under (t : Telemetry σ) (o : Outage) : Telemetry σ := { t with usage := t.usage.under o }

namespace InMemory

section Calls
variable (h : t.InMemory p) (o : Outage) (s : σ)
include h

theorem summary?_under (id : JobId) : (t.under o).usage.summary? id s =
    match o.summary? id with
    | some e => .error (.error e) s
    | none => .ok ((p.usage.get s).summary? id) s := by
  change Usage.Store.refuse (o.summary? id) _ s = _
  cases o.summary? id with
  | some e => rfl
  | none => exact h.summary?_apply s id

theorem ofJob_under (id : JobId) : (t.under o).usage.ofJob id s =
    match o.ofJob id with
    | some e => .error (.error e) s
    | none => .ok ((p.usage.get s).ofJob id) s := by
  change Usage.Store.refuse (o.ofJob id) _ s = _
  cases o.ofJob id with
  | some e => rfl
  | none => exact h.ofJob_apply s id

theorem putSummary_under (summary : Usage.Summary) : (t.under o).usage.putSummary summary s =
    match o.putSummary summary.jobId with
    | some e => .error (.error e) s
    | none => .ok () (p.usage.set ((p.usage.get s).putSummary summary) s) := by
  change Usage.Store.refuse (o.putSummary summary.jobId) _ s = _
  cases o.putSummary summary.jobId with
  | some e => rfl
  | none => exact h.putSummary_apply s summary

end Calls

/-! ## One job -/

section Job
variable (h : t.InMemory p)
include h

/-- A job to which nothing is due, and whose summary can be looked up, is passed over. -/
theorem summarizeJob_not_due (hlook : o.summary? id = none)
    (hdue : o.due (p.usage.get s) id = false) :
    ∃ s', p.Same s s' ∧ (t.under o).summarizeJob id s = .ok false s' := by
  have hfound := h.summary?_under o s id
  have hrows := h.ofJob_under o s id
  rw [hlook] at hfound
  unfold summarizeJob
  rw [Action.bind_of_ok hfound]
  cases hsum : (p.usage.get s).summary? id with
  | some summary => exact ⟨s, .refl s, rfl⟩
  | none =>
    cases hread : o.ofJob id with
    | some e =>
      rw [hread] at hrows
      exact ⟨s, .refl s, Action.bind_of_ok (Action.attempt_of_error hrows)⟩
    | none =>
      have hnil : (p.usage.get s).ofJob id = [] := by
        by_contra hne
        rw [Outage.due, owes_iff.2 ⟨hsum, hne⟩, hread] at hdue
        cases hdue
      obtain ⟨now, s', hclock, -, hsame⟩ := h.clock s
      rw [hread, hnil] at hrows
      refine ⟨s', hsame, ?_⟩
      dsimp only
      rw [Action.bind_of_ok (Action.attempt_of_ok hrows)]
      exact Action.bind_of_ok hclock

/-- A job to which a summary is due gets it, unless it cannot be kept. -/
theorem summarizeJob_due (hkept : ∀ x ∈ (p.usage.get s).snapshots, x.timestamp.isKept = true)
    (hlook : o.summary? id = none) (hdue : o.due (p.usage.get s) id = true) :
    ∃ s', p.jobs.get s' = p.jobs.get s ∧ match o.putSummary id with
      | some e => (t.under o).summarizeJob id s = .error (.error e) s' ∧
          p.usage.get s' = p.usage.get s
      | none => (t.under o).summarizeJob id s = .ok true s' ∧
          Filled [id] (p.usage.get s) (p.usage.get s') ∧ (p.usage.get s').owes id = false := by
  rw [Outage.due, Bool.and_eq_true, Option.isNone_iff_eq_none] at hdue
  obtain ⟨howes, hread⟩ := hdue
  obtain ⟨hnone, hne⟩ := owes_iff.1 howes
  obtain ⟨now, s₁, hclock, -, hsame⟩ := h.clock s
  obtain ⟨summary, hsum⟩ := Usage.exists_summarize hne
    (fun x hx => hkept x (Tables.mem_ofJob.1 hx).1) id now
  obtain ⟨-, hid, -⟩ := Usage.of_summarize hsum
  have hfound := h.summary?_under o s id
  have hrows := h.ofJob_under o s id
  have hclock' : (t.under o).clock s = .ok now s₁ := hclock
  have hput := h.putSummary_under o s₁ summary
  rw [hlook, hnone] at hfound
  rw [hread] at hrows
  rw [hid, hsame.usage] at hput
  unfold summarizeJob
  rw [Action.bind_of_ok hfound]
  dsimp only
  rw [Action.bind_of_ok (Action.attempt_of_ok hrows)]
  dsimp only
  rw [Action.bind_of_ok hclock', hsum, Action.ofChecked,
    Action.bind_of_ok (Action.pure_apply (some summary) s₁)]
  dsimp only
  cases hkeep : o.putSummary id with
  | some e =>
    rw [hkeep] at hput
    exact ⟨s₁, hsame.jobs, Action.bind_of_error hput, hsame.usage⟩
  | none =>
    rw [hkeep] at hput
    refine ⟨_, (h.apart _ s₁).trans hsame.jobs, Action.bind_of_ok hput, ?_⟩
    rw [h.usageLawful.get_set]
    have hgiven : ((p.usage.get s).putSummary summary).summary? id = some summary := by
      rw [Tables.summary?_putSummary, if_pos hid]
    exact ⟨.put (List.mem_singleton_self id) hnone hsum, not_owes_of_some hgiven⟩

/-- A job ends the pass, or it gets what is due to it. -/
theorem summarizeJob_under (o : Outage)
    (hkept : ∀ x ∈ (p.usage.get s).snapshots, x.timestamp.isKept = true) (id : JobId) :
    ∃ s', p.jobs.get s' = p.jobs.get s ∧ match o.stops (p.usage.get s) id with
      | some e => (t.under o).summarizeJob id s = .error (.error e) s' ∧
          p.usage.get s' = p.usage.get s
      | none => (t.under o).summarizeJob id s = .ok (o.due (p.usage.get s) id) s' ∧
          Filled [id] (p.usage.get s) (p.usage.get s') ∧ o.due (p.usage.get s') id = false := by
  unfold Outage.stops
  cases hlook : o.summary? id with
  | some e =>
    have hfound := h.summary?_under o s id
    rw [hlook] at hfound
    exact ⟨s, rfl, Action.bind_of_error hfound, rfl⟩
  | none =>
    rw [Option.none_or]
    cases hdue : o.due (p.usage.get s) id with
    | false =>
      obtain ⟨s', hsame, hrun⟩ := h.summarizeJob_not_due hlook hdue
      refine ⟨s', hsame.jobs, hrun, ?_, ?_⟩
      · rw [hsame.usage]
        exact .refl _ _
      · rw [hsame.usage, hdue]
    | true =>
      obtain ⟨s', hjobs, hrun⟩ := h.summarizeJob_due hkept hlook hdue
      refine ⟨s', hjobs, ?_⟩
      rw [if_pos rfl]
      split
      next e hput =>
        rw [hput] at hrun
        exact hrun
      next hput =>
        rw [hput] at hrun
        obtain ⟨hok, hfilled, hgiven⟩ := hrun
        refine ⟨hok, hfilled, ?_⟩
        rw [Outage.due, hgiven, Bool.false_and]

end Job

/-! ## A pass -/

section Pass
variable (h : t.InMemory p) (hon : ∀ r r', t.calledOff r ≠ .ok true r')
include h hon

theorem calledOff_false (s : σ) : ∃ s', t.calledOff s = .ok false s' ∧ p.Same s s' := by
  obtain ⟨off, s', hrun, hsame⟩ := h.calledOff s
  cases off with
  | true => exact absurd hrun (hon s s')
  | false => exact ⟨s', hrun, hsame⟩

/-- A pass gives the jobs that it reaches what is due to them, and answers the error of the first
job that ends it. -/
theorem summarizeJobs_under (o : Outage)
    (hkept : ∀ x ∈ (p.usage.get s).snapshots, x.timestamp.isKept = true)
    (hn : (jobs.map (·.id)).Nodup) :
    ∃ s', p.jobs.get s' = p.jobs.get s ∧
      Filled ((o.reached (p.usage.get s) jobs).map (·.id)) (p.usage.get s) (p.usage.get s') ∧
      (∀ j ∈ o.reached (p.usage.get s) jobs, o.due (p.usage.get s') j.id = false) ∧
      (t.under o).summarizeJobs jobs s =
        match jobs.findSome? fun j => o.stops (p.usage.get s) j.id with
        | some e => .error (.error e) s'
        | none => .ok (jobs.filter fun j => o.due (p.usage.get s) j.id).length s' := by
  induction jobs generalizing s with
  | nil => exact ⟨s, rfl, .refl _ _, fun _ hj => absurd hj List.not_mem_nil, rfl⟩
  | cons j rest ih =>
    obtain ⟨s₁, hoff, hsame⟩ := h.calledOff_false hon s
    have hoff' : (t.under o).calledOff s = .ok false s₁ := hoff
    rw [← hsame.usage] at hkept ⊢
    rw [← hsame.jobs, summarizeJobs, Action.bind_of_ok hoff', if_neg Bool.false_ne_true,
      List.findSome?_cons]
    obtain ⟨s₂, hjobs, hjob⟩ := h.summarizeJob_under o hkept j.id
    cases hstop : o.stops (p.usage.get s₁) j.id with
    | some e =>
      rw [hstop] at hjob
      rw [Outage.reached_cons_of_some hstop]
      refine ⟨s₂, hjobs, ?_, fun _ hj => absurd hj List.not_mem_nil, ?_⟩
      · rw [hjob.2]
        exact .refl _ _
      · exact Action.bind_of_error hjob.1
    | none =>
      rw [hstop] at hjob
      obtain ⟨hrun, hfilled, hgiven⟩ := hjob
      rw [List.map_cons, List.nodup_cons] at hn
      have howes : ∀ k ∈ rest, (p.usage.get s₂).owes k.id = (p.usage.get s₁).owes k.id := by
        refine fun k hk => hfilled.owes_of_not_mem fun hid => hn.1 ?_
        rw [← List.mem_singleton.1 hid]
        exact List.mem_map_of_mem hk
      obtain ⟨hreached, hfirst⟩ :=
        Outage.reached_congr (o := o) fun k hk => Outage.stops_congr (howes k hk)
      have hcount : (rest.filter fun k => o.due (p.usage.get s₂) k.id) =
          rest.filter fun k => o.due (p.usage.get s₁) k.id :=
        List.filter_congr fun k hk => Outage.due_congr (howes k hk)
      rw [← hfilled.snapshots] at hkept
      obtain ⟨s₃, hjobs', hfilled', hgiven', hrest⟩ := ih hkept hn.2
      rw [hreached] at hfilled' hgiven'
      rw [hfirst, hcount] at hrest
      rw [Outage.reached_cons_of_none hstop, List.map_cons, Action.bind_of_ok hrun]
      refine ⟨s₃, hjobs'.trans hjobs, (hfilled.mono ?_).trans (hfilled'.mono ?_), ?_, ?_⟩
      · exact List.cons_subset_cons _ (List.nil_subset _)
      · exact List.subset_cons_self _ _
      · refine List.forall_mem_cons.2 ⟨?_, hgiven'⟩
        rw [Outage.due, Bool.and_eq_false_iff] at hgiven ⊢
        exact hgiven.imp_left hfilled'.not_owes
      · split at hrest
        next e hsome =>
          rw [hsome]
          exact Action.bind_of_error hrest
        next hnone =>
          rw [hnone, Action.bind_of_ok hrest, List.filter_cons]
          split
          next => rw [List.length_cons, Nat.add_comm]; rfl
          next => rw [Nat.zero_add]; rfl

end Pass

end InMemory

/-! ## Many passes -/

/-- The jobs that have ended, in the order in which a pass comes to them. -/
def Parts.ended (p : Parts σ) (s : σ) : List Job :=
  (p.jobs.get s).withStatus JobStatus.terminal

/-- The jobs that a pass reaches have what is due to them. All else is as it was. -/
structure Served (p : Parts σ) (o : Outage) (s s' : σ) : Prop where
  jobs : p.jobs.get s' = p.jobs.get s
  filled : Filled ((o.reached (p.usage.get s) (p.ended s)).map (·.id)) (p.usage.get s)
    (p.usage.get s')
  given : ∀ j ∈ o.reached (p.usage.get s) (p.ended s), o.due (p.usage.get s') j.id = false

/-- The same jobs are reached afterwards. -/
theorem Served.reached_eq (h : Served p o s s') :
    o.reached (p.usage.get s') (p.ended s') = o.reached (p.usage.get s) (p.ended s) := by
  have hended : p.ended s' = p.ended s := by rw [Parts.ended, h.jobs, Parts.ended]
  rw [hended]
  refine (Outage.reached_congr fun j _ => ?_).1
  by_cases hmem : j.id ∈ (o.reached (p.usage.get s) (p.ended s)).map (·.id)
  · obtain ⟨k, hk, hid⟩ := List.mem_map.1 hmem
    have hstop : o.stops (p.usage.get s) k.id = none := Outage.stops_of_mem_reached hk
    rw [← hid, hstop]
    exact Outage.stops_of_given hstop (h.given k hk)
  · exact Outage.stops_congr (h.filled.owes_of_not_mem hmem)

theorem Served.trans (h : Served p o s s') (h' : Served p o s' s'') : Served p o s s'' where
  jobs := h'.jobs.trans h.jobs
  filled := h.filled.trans (h.reached_eq ▸ h'.filled)
  given j hj := h'.given j (h.reached_eq ▸ hj)

namespace InMemory

variable (h : t.InMemory p) (hon : ∀ r r', t.calledOff r ≠ .ok true r') (o : Outage)
include h hon

/-- One pass. -/
theorem summarize_under (hindexed : (p.jobs.get s).Indexed)
    (hkept : ∀ x ∈ (p.usage.get s).snapshots, x.timestamp.isKept = true) :
    Served p o s ((t.under o).summarize.after s) ∧
      (t.under o).summarize.answer s =
        match (p.ended s).findSome? fun j => o.stops (p.usage.get s) j.id with
        | some e => .error (.error e)
        | none => .ok ((p.ended s).filter fun j => o.due (p.usage.get s) j.id).length := by
  have heq : (t.under o).summarize s = (t.under o).summarizeJobs (p.ended s) s :=
    Action.bind_of_ok (h.withStatus_apply s JobStatus.terminal)
  have hnodup : ((p.ended s).map (·.id)).Nodup :=
    hindexed.nodup.sublist (List.filter_sublist.map _)
  obtain ⟨s', hjobs, hfilled, hgiven, hrun⟩ := h.summarizeJobs_under hon o hkept hnodup
  rw [Action.after, Action.answer, heq, hrun]
  cases (p.ended s).findSome? fun j => o.stops (p.usage.get s) j.id with
  | some e => exact ⟨⟨hjobs, hfilled, hgiven⟩, rfl⟩
  | none => exact ⟨⟨hjobs, hfilled, hgiven⟩, rfl⟩

/-- Any number of passes, at least one. -/
theorem served_of_passes (hindexed : (p.jobs.get s).Indexed)
    (hkept : ∀ x ∈ (p.usage.get s).snapshots, x.timestamp.isKept = true) (n : Nat) :
    Served p o s ((t.under o).summarize.after^[n + 1] s) := by
  induction n with
  | zero => exact (h.summarize_under hon o hindexed hkept).1
  | succ n ih =>
    rw [Function.iterate_succ_apply']
    refine ih.trans (h.summarize_under hon o ?_ ?_).1
    · rw [ih.jobs]
      exact hindexed
    · rw [ih.filled.snapshots]
      exact hkept

end InMemory

/-! ## Who gets a summary -/

/-- A job for which the store works has a summary afterwards if it had one, or if it has snapshots
and no job ahead of it ends the pass. -/
theorem Served.isSome_iff (h : Served p o s s') {k : Job} (hk : k ∈ p.ended s)
    (hspares : o.Spares k.id) (hrows : (p.usage.get s).ofJob k.id ≠ []) :
    ((p.usage.get s').summary? k.id).isSome = true ↔
      ((p.usage.get s).summary? k.id).isSome = true ∨
        ∀ j ∈ Outage.ahead k.id (p.ended s), o.stops (p.usage.get s) j.id = none := by
  rw [← Outage.mem_reached_iff hk (hspares.stops _)]
  constructor
  · intro hsome
    obtain heq | ⟨hmem, -⟩ := h.filled.summary k.id
    · exact .inl (heq ▸ hsome)
    · exact .inr hmem
  · rintro (hsome | hmem)
    · obtain ⟨summary, hfound⟩ := Option.isSome_iff_exists.1 hsome
      rw [h.filled.keeps hfound]
      rfl
    · obtain ⟨j, hj, hid⟩ := List.mem_map.1 hmem
      have hgiven := h.given j hj
      rw [hid, Outage.due, hspares.2.1, Option.isNone_none, Bool.and_true] at hgiven
      exact Tables.isSome_of_not_owes hgiven (h.filled.ofJob k.id ▸ hrows)

/-- A pass that is not called off answers the error of the first job that ends it, and the jobs
behind that one get nothing, in this pass and in any number of them: where a summary cannot be
looked up or cannot be kept, the jobs behind go without. Snapshots that cannot be read cost no other
job its summary. -/
theorem summary_iff_not_behind (h : t.InMemory p) (hon : ∀ r r', t.calledOff r ≠ .ok true r')
    (o : Outage) {s : σ} (hindexed : (p.jobs.get s).Indexed)
    (hkept : ∀ x ∈ (p.usage.get s).snapshots, x.timestamp.isKept = true) :
    ((t.under o).summarize.answer s =
      match (p.ended s).findSome? fun j => o.stops (p.usage.get s) j.id with
      | some e => .error (.error e)
      | none => .ok ((p.ended s).filter fun j => o.due (p.usage.get s) j.id).length) ∧
    (∀ n, ∀ k ∈ p.ended s, o.Spares k.id → (p.usage.get s).ofJob k.id ≠ [] →
      (((p.usage.get ((t.under o).summarize.after^[n + 1] s)).summary? k.id).isSome = true ↔
        ((p.usage.get s).summary? k.id).isSome = true ∨
          ∀ j ∈ Outage.ahead k.id (p.ended s), o.stops (p.usage.get s) j.id = none)) ∧
    ((∀ id, o.summary? id = none ∧ o.putSummary id = none) →
      ∀ n, ∀ k ∈ p.ended s, o.Spares k.id → (p.usage.get s).ofJob k.id ≠ [] →
        ((p.usage.get ((t.under o).summarize.after^[n + 1] s)).summary? k.id).isSome = true) := by
  have hserved := h.served_of_passes hon o hindexed hkept
  refine ⟨(h.summarize_under hon o hindexed hkept).2,
    fun n k hk hspares hrows => (hserved n).isSome_iff hk hspares hrows,
    fun hreads n k hk hspares hrows => ?_⟩
  refine ((hserved n).isSome_iff hk hspares hrows).2 (.inr fun j _ => ?_)
  obtain ⟨hlook, hput⟩ := hreads j.id
  rw [Outage.stops, hlook, hput, ite_self]
  rfl

end Telemetry

/-! ## A job behind another one -/

namespace Daemon

open Session (refusingPlan)
open Usage (Outage)

/-- A second job that has ended, with a snapshot. -/
def nextJob : Job := { endedJob with id := ⟨10#128⟩ }

def nextSnapshot : Usage.Snapshot := { endedSnapshot with id := 2, jobId := nextJob.id }

/-- The summary of the first job cannot be looked up. -/
def blindOutage : Outage where
  summary? id := if id = endedJob.id then some (.unavailable "down") else none

/-- The second job does not get its summary in any number of passes, though the store works for
it. -/
theorem summary_iff_not_behind_next : ∃ d : Daemon Unit, d.jobs.toList = [endedJob, nextJob] ∧
    blindOutage.Spares nextJob.id ∧ d.usage.ofJob nextJob.id = [nextSnapshot] ∧
    ((telemetry refusingPlan ⟨100, 0⟩).under blindOutage).summarize.answer d =
      .error (.error (.unavailable "down")) ∧
    ∀ n, (((telemetry refusingPlan ⟨100, 0⟩).under blindOutage).summarize.after^[n + 1]
      d).usage.summary? nextJob.id = none := by
  have hmem : (telemetry refusingPlan ⟨100, 0⟩).InMemory (telemetryParts (ε := Unit)) :=
    telemetry_inMemory (by decide) rfl rfl
  obtain ⟨a, ha⟩ := Job.Archive.exists_add_empty endedJob
  have hfirst : a.toList = [endedJob] := Job.Archive.toList_add ha
  have hindexed : a.Indexed := Job.Archive.indexed_empty.add ha
  obtain ⟨b, hb⟩ := hindexed.exists_add (j := nextJob) (by
    rw [hfirst]
    decide)
  have hlist : b.toList = [endedJob, nextJob] := by
    rw [Job.Archive.toList_add hb, hfirst]
    rfl
  let d : Daemon Unit :=
    { jobs := b, usage := { snapshots := [endedSnapshot, nextSnapshot], lastId := 2 },
      executors := () }
  have hended : telemetryParts.ended d = [endedJob, nextJob] := by
    change b.toList.filter _ = _
    rw [hlist]
    rfl
  have hspares : blindOutage.Spares nextJob.id := ⟨rfl, rfl, rfl⟩
  have hrows : d.usage.ofJob nextJob.id = [nextSnapshot] := by
    simp [d, Usage.Tables.ofJob, endedSnapshot, nextSnapshot, endedJob, nextJob]
  obtain ⟨hanswer, hbehind, -⟩ := Telemetry.summary_iff_not_behind hmem (by
    rintro r r' hoff
    cases hoff) blindOutage (s := d) (hindexed.add hb) (by
    change ∀ x ∈ [endedSnapshot, nextSnapshot], _
    decide)
  rw [hended] at hanswer hbehind
  refine ⟨d, hlist, hspares, hrows, hanswer, fun n => ?_⟩
  have hiff := hbehind n nextJob (by decide) hspares (by
    change d.usage.ofJob nextJob.id ≠ []
    rw [hrows]
    exact List.cons_ne_nil _ _)
  rw [← Option.not_isSome_iff_eq_none]
  intro hsome
  obtain hbefore | hahead := hiff.1 hsome
  · cases hbefore
  · cases hahead endedJob (by decide)

end Daemon

end GpuCluster
