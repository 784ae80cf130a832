import Mathlib.Logic.Function.Basic
import GpuCluster.Proofs.Daemon.Operations

/-!
# One reconcile pass

* `Executor.Noted`, `Registry.noted` : executors that do the same and note the calls they get;
* `Reconcile.ending?` : what a running job has ended in, by the answer of its executor;
* `check_noted`, `checkAll_noted` : looking at one job, and at some of them;
* `Reconcile.Exact`, `reconcile_noted` : a pass closes the records of the jobs that have ended,
  reports these jobs and has them forgotten, and does nothing else.
-/

namespace GpuCluster

/-! ## Noted calls -/

namespace Executor

/-- A call that the executor of a type gets, with its answer. -/
inductive Call where
  | status (jobType : String) (id : JobId) (answer : Except Error JobStatus)
  | release (jobType : String) (id : JobId)

/-- The job that the call makes an executor forget. -/
def Call.released? : Call → Option JobId
  | status _ _ _ => none
  | release _ id => some id

/-- The state of executors, with the calls they have got. -/
structure Noted (ε : Type) where
  state : ε
  calls : List Call := []

variable {ε : Type}

def Noted.statePart : Lens (Noted ε) ε := ⟨Noted.state, fun x n => { n with state := x }⟩

def Noted.callsPart : Lens (Noted ε) (List Call) :=
  ⟨Noted.calls, fun cs n => { n with calls := cs }⟩

/-- An executor that does the same and notes what it is asked. -/
def noted (jobType : String) (x : Executor ε) : Executor (Noted ε) :=
  { x.within Noted.statePart with
    status := fun id => do
      let answer ← Action.attempt ((x.status id).zoom Noted.statePart)
      Action.update Noted.callsPart (· ++ [.status jobType id answer])
      Action.ofExcept answer
    release := fun id => do
      Action.update Noted.callsPart (· ++ [.release jobType id])
      (x.release id).zoom Noted.statePart }

namespace Registry

def noted (r : Registry (Executor ε)) : Registry (Executor (Noted ε)) :=
  ⟨⟨r.byType.entries.map fun e => (e.1, e.2.noted e.1)⟩⟩

theorem find?_noted (r : Registry (Executor ε)) (jobType : String) :
    r.noted.find? jobType = (r.find? jobType).map (Executor.noted jobType) := by
  unfold find? noted Bindings.get?
  induction r.byType.entries with
  | nil => rfl
  | cons e rest ih =>
    rw [List.map_cons, List.find?_cons, List.find?_cons]
    cases he : e.1 == jobType with
    | true =>
      obtain rfl := eq_of_beq he
      rfl
    | false => exact ih

/-- The executors answer every question and release every job, if only with an error. -/
def Responds (r : Registry (Executor ε)) : Prop :=
  ∀ jobType x, r.find? jobType = some x → ∀ id, (x.status id).Answers ∧ (x.release id).Answers

variable {r : Registry (Executor ε)} {x : Executor ε} {j : Job} {n : Noted ε}

theorem status_noted (hx : r.find? j.jobType = some x) (h : (x.status j.id).Answers) (n : Noted ε) :
    ∃ answer e, Action.attempt (x.status j.id) n.state = .ok answer e ∧
      Action.attempt (r.noted.status j) n =
        .ok answer ⟨e, n.calls ++ [.status j.jobType j.id answer]⟩ := by
  obtain ⟨answer, e, he⟩ := h n.state
  have hask : Action.attempt ((x.status j.id).zoom Noted.statePart) n =
      .ok answer { n with state := e } := Action.attempt_zoom_ok.2 ⟨e, he, rfl⟩
  have hstatus : r.noted.status j = (x.noted j.jobType).status j.id :=
    status_of_find? (by rw [find?_noted, hx]; rfl)
  refine ⟨answer, e, he, ?_⟩
  rw [hstatus]
  cases answer with
  | ok status => exact Action.attempt_of_ok (Action.bind_of_ok hask)
  | error err => exact Action.attempt_of_error (Action.bind_of_ok hask)

theorem release_noted (hx : r.find? j.jobType = some x) (h : (x.release j.id).Answers)
    (n : Noted ε) : ∃ e, Action.tolerate (r.noted.release j) n =
      .ok () ⟨e, n.calls ++ [.release j.jobType j.id]⟩ := by
  obtain ⟨answer, e, he⟩ := h n.state
  have hrelease : r.noted.release j = (x.noted j.jobType).release j.id :=
    release_of_find? (by rw [find?_noted, hx]; rfl)
  let noted : Noted ε := ⟨n.state, n.calls ++ [.release j.jobType j.id]⟩
  have hnote : Action.update Noted.callsPart (· ++ [.release j.jobType j.id]) n =
      .ok () noted := rfl
  have hzoom : Action.attempt ((x.release j.id).zoom Noted.statePart) noted =
      .ok answer { noted with state := e } := Action.attempt_zoom_ok.2 ⟨e, he, rfl⟩
  refine ⟨e, ?_⟩
  rw [hrelease]
  rcases Action.attempt_ok hzoom with ⟨_, -, hok⟩ | ⟨err, -, herr⟩
  · exact Action.tolerate_of_ok ((Action.bind_of_ok hnote).trans hok)
  · exact Action.tolerate_of_error ((Action.bind_of_ok hnote).trans herr)

end Registry

end Executor

/-! ## One job -/

namespace Reconcile

open Executor (Call Noted Registry)

variable {ε : Type} {r : Registry (Executor ε)} {answer : Except Error JobStatus} {j : Job}
  {now : Instant}

/-- What a running job has ended in, by the answer of its executor. -/
def ending? (r : Registry (Executor ε)) (answer : Except Error JobStatus) (j : Job) :
    Option JobStatus :=
  if j.status = .running ∧ (r.find? j.jobType).isSome then
    answer.toOption.filter (·.isTerminal)
  else none

/-- The calls that the executors get about a job. -/
def callsFor (r : Registry (Executor ε)) (answer : Except Error JobStatus) (j : Job) : List Call :=
  if j.status = .running ∧ (r.find? j.jobType).isSome then
    .status j.jobType j.id answer ::
      (ending? r answer j).toList.map fun _ => .release j.jobType j.id
  else []

/-- The record of a job that has ended. The reason is given if and only if it has failed. -/
def close (now : Instant) (status : JobStatus) (j : Job) : Job :=
  { j with
    status := status
    completedAt := some now
    errorMessage := if status = .failed then some failureReason else j.errorMessage }

/-- The record of a job after its executor has answered. -/
def settle (r : Registry (Executor ε)) (now : Instant) (answer : Except Error JobStatus)
    (j : Job) : Job :=
  (ending? r answer j).elim j fun status => close now status j

theorem id_settle (r : Registry (Executor ε)) (now : Instant) (answer : Except Error JobStatus)
    (j : Job) : (settle r now answer j).id = j.id := by
  unfold settle
  cases ending? r answer j <;> rfl

theorem ending?_of_not_running (h : j.status ≠ .running) : ending? r answer j = none :=
  if_neg fun hboth => h hboth.1

theorem settle_of_not_running (h : j.status ≠ .running) : settle r now answer j = j := by
  rw [settle, ending?_of_not_running h]
  rfl

theorem callsFor_of_not_running (h : j.status ≠ .running) : callsFor r answer j = [] :=
  if_neg fun hboth => h hboth.1

theorem of_ending? {status : JobStatus} (h : ending? r answer j = some status) :
    answer = .ok status ∧ status.isTerminal = true := by
  unfold ending? at h
  split at h
  next =>
    obtain ⟨hanswer, hterm⟩ := Option.filter_eq_some_iff.1 h
    cases answer with
    | error e => cases hanswer
    | ok _ => exact ⟨congrArg _ (Option.some.inj hanswer), hterm⟩
  next => cases h

theorem advance_of_isTerminal {status : JobStatus} (h : status.isTerminal = true) (j : Job) :
    j.advance now status (reasonFor status) = close now status j := by
  have hends : status ≠ .running := by
    rintro rfl
    cases h
  have hstart : (if status = .running ∧ j.startedAt = none then some now else j.startedAt) =
      j.startedAt := if_neg fun hboth => hends hboth.1
  unfold Job.advance close reasonFor
  rw [hstart, if_pos h]
  by_cases hfailed : status = .failed
  · rw [if_pos hfailed, if_pos hfailed]
    rfl
  · rw [if_neg hfailed, if_neg hfailed]
    rfl

/-- What a pass does, by the answers of the executors about the running jobs. -/
structure Exact (r : Registry (Executor ε)) (now : Instant)
    (answers : JobId → Except Error JobStatus) (d : Daemon (Noted ε)) (fs : List Finished)
    (d' : Daemon (Noted ε)) : Prop where
  /-- The answers are those that the executors have given. -/
  given : ∀ j ∈ d.jobs.toList, j.status = .running → ∀ x, r.find? j.jobType = some x →
    ∃ n e, Action.attempt (x.status j.id) n = .ok (answers j.id) e
  records : d'.jobs.toList = d.jobs.toList.map fun j => settle r now (answers j.id) j
  reports : fs = d.jobs.toList.filterMap fun j => (ending? r (answers j.id) j).map (⟨j.id, ·⟩)
  calls : d'.executors.calls = d.executors.calls ++
    d.jobs.toList.flatMap fun j => callsFor r (answers j.id) j
  aside : d' = { d with jobs := d'.jobs, executors := d'.executors }

end Reconcile

namespace Daemon

open Executor (Noted Registry)
open Reconcile (Finished ending? callsFor settle close)

variable {ε : Type} {r : Registry (Executor ε)} {p : Plan (Noted ε)} {d : Daemon (Noted ε)}
  {j : Job}

/-- The stored jobs after one of them has ended, if it has. -/
def closed (now : Instant) (id : JobId) (a : Job.Archive) : Option JobStatus → Job.Archive
  | some status => a.modify id (Job.advance now status (Reconcile.reasonFor status))
  | none => a

/-- The executor of a job is asked, which is noted with its answer. -/
theorem ask_noted (hp : p.registry = r.noted) (hr : r.Responds) {x : Executor ε}
    (hx : r.find? j.jobType = some x) : ∃ answer e,
    Action.attempt (x.status j.id) d.executors.state = .ok answer e ∧
    Action.attempt (p.executors.status j) d = .ok answer { d with
      executors := ⟨e, d.executors.calls ++ [.status j.jobType j.id answer]⟩ } := by
  obtain ⟨answer, e, hgiven, hnoted⟩ := Registry.status_noted hx (hr _ x hx j.id).1 d.executors
  refine ⟨answer, e, hgiven, ?_⟩
  rw [p.status_eq, hp]
  exact Action.attempt_zoom_ok.2 ⟨_, hnoted, rfl⟩

/-- The record of a running job is closed, and its executor forgets it. -/
theorem finish_noted (hp : p.registry = r.noted) (hr : r.Responds) {x : Executor ε}
    (hx : r.find? j.jobType = some x) (now : Instant) (hj : d.jobs.find? j.id = some j)
    (hrun : j.status = .running) (status : JobStatus) : ∃ e,
    Reconcile.finish p.executors jobStore now j status d = .ok (some ⟨j.id, status⟩) { d with
      jobs := closed now j.id d.jobs (some status)
      executors := ⟨e, d.executors.calls ++ [.release j.jobType j.id]⟩ } := by
  obtain ⟨e, hforgotten⟩ := Registry.release_noted hx (hr _ x hx j.id).2 d.executors
  have hmoved : Job.Store.archive.recordIf now j.id .running status (Reconcile.reasonFor status)
      d.jobs = .ok true (closed now j.id d.jobs (some status)) := by
    simp only [Job.Store.archive, Job.Archive.recordIf, hj, hrun, if_true]
    rfl
  have hwrite : Action.attempt (jobStore.recordIf now j.id .running status
      (Reconcile.reasonFor status)) d =
      .ok (.ok true) { d with jobs := closed now j.id d.jobs (some status) } :=
    Action.attempt_of_ok (Action.zoom_of_ok hmoved)
  have hreleased : Action.tolerate (p.executors.release j)
      { d with jobs := closed now j.id d.jobs (some status) } = .ok () { d with
        jobs := closed now j.id d.jobs (some status)
        executors := ⟨e, d.executors.calls ++ [.release j.jobType j.id]⟩ } := by
    rw [p.release_eq, hp]
    exact (Action.tolerate_zoom_ok executorsPart_lawful).2 ⟨_, hforgotten, rfl⟩
  refine ⟨e, ?_⟩
  rw [Reconcile.finish, Action.bind_of_ok hwrite]
  exact Action.bind_of_ok hreleased

/-- Looking at a running job asks its executor, if there is one. If the job has ended, its record
is closed, the executor forgets it, and the job is reported. -/
theorem check_noted (hp : p.registry = r.noted) (hr : r.Responds) (now : Instant)
    (hj : d.jobs.find? j.id = some j) (hrun : j.status = .running) : ∃ answer e,
    Reconcile.check p.executors jobStore now j d =
      .ok ((ending? r answer j).map (⟨j.id, ·⟩)) { d with
        jobs := closed now j.id d.jobs (ending? r answer j)
        executors := ⟨e, d.executors.calls ++ callsFor r answer j⟩ } ∧
    ∀ x, r.find? j.jobType = some x →
      ∃ n e', Action.attempt (x.status j.id) n = .ok answer e' := by
  cases hx : r.find? j.jobType with
  | none =>
    have hfind : r.noted.find? j.jobType = none := by rw [Registry.find?_noted, hx]; rfl
    have hasked : Action.attempt (p.executors.status j) d =
        .ok (.error (.executorNotFound j.jobType)) d := by
      rw [p.status_eq, hp, Registry.status_of_none hfind, Action.zoom_fail executorsPart_lawful]
      exact Action.attempt_fail ..
    have hno : ¬ (j.status = .running ∧ (r.find? j.jobType).isSome) := by simp [hx]
    refine ⟨.error (.executorNotFound j.jobType), d.executors.state, ?_, nofun⟩
    rw [ending?, callsFor, if_neg hno, if_neg hno, List.append_nil]
    exact Action.bind_of_ok hasked
  | some x =>
    have hyes : j.status = .running ∧ (r.find? j.jobType).isSome := ⟨hrun, by rw [hx]; rfl⟩
    obtain ⟨answer, e, hgiven, hasked⟩ := ask_noted (d := d) hp hr hx
    have hgave : ∀ y, some x = some y →
        ∃ n e', Action.attempt (y.status j.id) n = .ok answer e' := by
      rintro _ ⟨⟩
      exact ⟨_, _, hgiven⟩
    cases hending : ending? r answer j with
    | none =>
      refine ⟨answer, e, ?_, hgave⟩
      rw [hending, callsFor, if_pos hyes, hending, Reconcile.check, Action.bind_of_ok hasked]
      cases answer with
      | error err => rfl
      | ok status =>
        have hterm : status.isTerminal = false := by
          rw [ending?, if_pos hyes] at hending
          simpa [Except.toOption] using hending
        simp only [hterm]
        rfl
    | some status =>
      obtain ⟨rfl, hterm⟩ := Reconcile.of_ending? hending
      obtain ⟨e', hfinish⟩ := finish_noted (d := { d with
        executors := ⟨e, d.executors.calls ++ [.status j.jobType j.id (.ok status)]⟩ })
        hp hr hx now hj hrun status
      refine ⟨.ok status, e', ?_, hgave⟩
      rw [hending, callsFor, if_pos hyes, hending, Reconcile.check, Action.bind_of_ok hasked]
      simp only [hterm, if_true]
      rw [hfinish, List.append_assoc]
      rfl

/-! ## Some jobs -/

theorem indexed_closed {a : Job.Archive} (hi : a.Indexed) (now : Instant) (id : JobId)
    (status? : Option JobStatus) : (closed now id a status?).Indexed := by
  cases status? with
  | none => exact hi
  | some status => exact hi.advance

/-- One record is settled, the others are as before. -/
theorem toList_closed {a : Job.Archive} (hi : a.Indexed) (r : Registry (Executor ε)) (now : Instant)
    (answer : Except Error JobStatus) (hj : j ∈ a.toList) :
    (closed now j.id a (ending? r answer j)).toList =
      a.toList.map fun k => if k = j then settle r now answer j else k := by
  unfold settle
  cases hending : ending? r answer j with
  | none =>
    have hsame : ∀ k ∈ a.toList, (if k = j then j else k) = k := by
      intro k _
      split
      next h => exact h.symm
      next => rfl
    exact ((List.map_congr_left hsame).trans (List.map_id' _)).symm
  | some status =>
    refine (hi.toList_modify ..).trans (List.map_congr_left fun k hk => ?_)
    by_cases hid : k.id = j.id
    · obtain rfl := hi.eq_of_id hk hj hid
      rw [if_pos rfl, if_pos rfl]
      exact Reconcile.advance_of_isTerminal (Reconcile.of_ending? hending).2 k
    · rw [if_neg hid, if_neg fun heq => hid (congrArg Job.id heq)]

/-- Once the first record is settled, settling the others settles them all. -/
theorem toList_settled {a b : Job.Archive} {js : List Job} {answer : Except Error JobStatus}
    {answers : JobId → Except Error JobStatus} {now : Instant} (hi : a.Indexed) (hj : j ∈ a.toList)
    (hother : ∀ k ∈ js, k.id ≠ j.id)
    (hb : b.toList = (closed now j.id a (ending? r answer j)).toList.map fun k =>
      if k ∈ js then settle r now (answers k.id) k else k) :
    b.toList = a.toList.map fun k =>
      if k ∈ j :: js then settle r now (Function.update answers j.id answer k.id) k else k := by
  rw [hb, toList_closed hi r now answer hj, List.map_map]
  refine List.map_congr_left fun k hk => ?_
  rw [Function.comp_apply]
  by_cases hkj : k = j
  · subst hkj
    have hout : settle r now answer k ∉ js :=
      fun hmem => hother _ hmem (Reconcile.id_settle ..)
    rw [if_pos rfl, if_neg hout, if_pos List.mem_cons_self, Function.update_self]
  · rw [if_neg hkj]
    by_cases hmem : k ∈ js
    · rw [if_pos hmem, if_pos (List.mem_cons_of_mem _ hmem), Function.update_of_ne (hother k hmem)]
    · rw [if_neg hmem, if_neg fun h => (List.mem_cons.1 h).elim hkj hmem]

/-- Looking at some running jobs settles them one by one. -/
theorem checkAll_noted {js : List Job} (hp : p.registry = r.noted) (hr : r.Responds)
    (now : Instant) (hi : d.jobs.Indexed) (hnodup : (js.map (·.id)).Nodup)
    (hjs : ∀ j ∈ js, j ∈ d.jobs.toList ∧ j.status = .running) :
    ∃ (answers : JobId → Except Error JobStatus) (a : Job.Archive) (e : ε),
      Reconcile.checkAll p.executors jobStore now js d =
        .ok (js.filterMap fun j => (ending? r (answers j.id) j).map (⟨j.id, ·⟩)) { d with
          jobs := a
          executors := ⟨e, d.executors.calls ++ js.flatMap fun j =>
            callsFor r (answers j.id) j⟩ } ∧
      (a.toList = d.jobs.toList.map fun k =>
        if k ∈ js then settle r now (answers k.id) k else k) ∧
      ∀ j ∈ js, ∀ x, r.find? j.jobType = some x →
        ∃ n e', Action.attempt (x.status j.id) n = .ok (answers j.id) e' := by
  induction js generalizing d with
  | nil =>
    refine ⟨fun _ => .ok .running, d.jobs, d.executors.state, ?_, ?_,
      fun _ hj => absurd hj List.not_mem_nil⟩
    · rw [List.flatMap_nil, List.append_nil]
      rfl
    · simp
  | cons j rest ih =>
    obtain ⟨hnot, hrest⟩ := List.nodup_cons.1 hnodup
    have hother : ∀ k ∈ rest, k.id ≠ j.id :=
      fun k hk hid => hnot (List.mem_map.2 ⟨k, hk, hid⟩)
    obtain ⟨hj, hrun⟩ := hjs j List.mem_cons_self
    obtain ⟨answer, e, hcheck, hgiven⟩ := check_noted hp hr now (hi.find?_of_mem hj) hrun
    obtain ⟨answers, a, e', hall, hlist, hgave⟩ := ih
      (d := { d with
        jobs := closed now j.id d.jobs (ending? r answer j)
        executors := ⟨e, d.executors.calls ++ callsFor r answer j⟩ })
      (indexed_closed hi _ _ _) hrest fun k hk => by
        obtain ⟨hmem, hkrun⟩ := hjs k (List.mem_cons_of_mem _ hk)
        refine ⟨?_, hkrun⟩
        rw [toList_closed hi r now answer hj]
        refine List.mem_map.2 ⟨k, hmem, if_neg ?_⟩
        exact fun heq => hother k hk (congrArg Job.id heq)
    -- The answer about the first job joins those about the others.
    have hupdate : ∀ k ∈ rest, Function.update answers j.id answer k.id = answers k.id :=
      fun k hk => Function.update_of_ne (hother k hk) ..
    have hfirst : Function.update answers j.id answer j.id = answer := Function.update_self ..
    refine ⟨Function.update answers j.id answer, a, e', ?_, ?_, fun k hk x hx => ?_⟩
    · have hreports : (rest.filterMap fun k =>
          (ending? r (Function.update answers j.id answer k.id) k).map (Finished.mk k.id)) =
          rest.filterMap fun k => (ending? r (answers k.id) k).map (Finished.mk k.id) :=
        List.filterMap_congr fun k hk => by rw [hupdate k hk]
      have hcalls : (rest.flatMap fun k =>
          callsFor r (Function.update answers j.id answer k.id) k) =
          rest.flatMap fun k => callsFor r (answers k.id) k :=
        List.flatMap_congr fun k hk => by rw [hupdate k hk]
      rw [Reconcile.checkAll, Action.bind_of_ok hcheck, Action.bind_of_ok hall, List.flatMap_cons,
        List.filterMap_cons, hfirst, hreports, hcalls, List.append_assoc]
      cases ending? r answer j <;> rfl
    · exact toList_settled hi hj hother hlist
    · rcases List.mem_cons.1 hk with rfl | hk
      · rw [hfirst]
        exact hgiven x hx
      · rw [hupdate k hk]
        exact hgave k hk x hx

/-! ## A pass -/

/-- Nothing about jobs that are not running counts. -/
theorem filterMap_running {β : Type} {f : Job → Option β} (a : Job.Archive)
    (hf : ∀ j : Job, j.status ≠ .running → f j = none) :
    (a.withStatus [.running]).filterMap f = a.toList.filterMap f := by
  rw [Job.Archive.withStatus, List.filterMap_filter]
  refine List.filterMap_congr fun j _ => ?_
  split
  next => rfl
  next h => exact (hf j (by simpa using h)).symm

theorem flatMap_running {β : Type} {f : Job → List β} (a : Job.Archive)
    (hf : ∀ j : Job, j.status ≠ .running → f j = []) :
    (a.withStatus [.running]).flatMap f = a.toList.flatMap f := by
  rw [Job.Archive.withStatus]
  induction a.toList with
  | nil => rfl
  | cons j rest ih =>
    rw [List.filter_cons, List.flatMap_cons, ← ih]
    split
    next => rw [List.flatMap_cons]
    next h =>
      rw [hf j (by simpa using h)]
      rfl

/-- A pass ends well, and does to the jobs what their executors answer. -/
theorem reconcile_noted (hp : p.registry = r.noted) (hr : r.Responds) (now : Instant)
    (hi : d.jobs.Indexed) : ∃ answers fs d',
      reconcile p now d = .ok fs d' ∧ Reconcile.Exact r now answers d fs d' := by
  have hmem : ∀ j, j ∈ d.jobs.withStatus [.running] ↔
      j ∈ d.jobs.toList ∧ j.status = .running := by
    intro j
    rw [Job.Archive.withStatus, List.mem_filter, List.contains_iff_mem, List.mem_singleton]
  have hlist : jobStore.withStatus [.running] d = .ok (d.jobs.withStatus [.running]) d := rfl
  obtain ⟨answers, a, e, hall, hrecords, hgiven⟩ := checkAll_noted hp hr now hi
    (hi.nodup.sublist (List.filter_sublist.map Job.id)) fun j hj => (hmem j).1 hj
  refine ⟨answers, _, _, (Action.bind_of_ok hlist).trans hall, fun j hj hrun => ?_, ?_, ?_, ?_, rfl⟩
  · exact hgiven j ((hmem j).2 ⟨hj, hrun⟩)
  · refine hrecords.trans (List.map_congr_left fun j hj => ?_)
    split
    next => rfl
    next hnot =>
      refine (Reconcile.settle_of_not_running fun hrun => ?_).symm
      exact hnot ((hmem j).2 ⟨hj, hrun⟩)
  · refine filterMap_running d.jobs fun j hrun => ?_
    rw [Reconcile.ending?_of_not_running hrun]
    rfl
  · exact congrArg (d.executors.calls ++ ·)
      (flatMap_running d.jobs fun j hrun => Reconcile.callsFor_of_not_running hrun)

end Daemon

end GpuCluster
