import GpuCluster.Daemon.Basic
import GpuCluster.Proofs.Executor.Registry
import GpuCluster.Proofs.Preemption.Perform
import GpuCluster.Proofs.Quota.Book

/-!
# All that the operations of a daemon can do

* `Daemon.Dispatched`, `dispatchNext_ok` : handing out the next job;
* `Daemon.Checked`, `check_ok` : looking at one running job;
* `reconcile_departs` : looking at all of them lets some jobs leave running;
* `makeRoomFor_ok` : making room lets the victims leave running and releases them;
* `Daemon.Submitted`, `submit_ok` : admitting a job, or refusing it.
-/

namespace GpuCluster

/-! ## Parts -/

namespace Daemon

variable {ε : Type}

theorem jobsPart_lawful : (jobsPart : Lens (Daemon ε) Job.Archive).Lawful :=
  ⟨fun _ _ => rfl, fun _ => rfl, fun _ _ _ => rfl⟩

theorem quotasPart_lawful : (quotasPart : Lens (Daemon ε) (Bindings Quota)).Lawful :=
  ⟨fun _ _ => rfl, fun _ => rfl, fun _ _ _ => rfl⟩

theorem executorsPart_lawful : (executorsPart : Lens (Daemon ε) ε).Lawful :=
  ⟨fun _ _ => rfl, fun _ => rfl, fun _ _ _ => rfl⟩

namespace Plan

variable (p : Plan ε) (j : Job)

theorem execute_eq : p.executors.execute j = (p.registry.execute j).zoom executorsPart :=
  Executor.Registry.execute_within executorsPart_lawful ..

theorem status_eq : p.executors.status j = (p.registry.status j).zoom executorsPart :=
  Executor.Registry.status_within executorsPart_lawful ..

theorem release_eq : p.executors.release j = (p.registry.release j).zoom executorsPart :=
  Executor.Registry.release_within executorsPart_lawful ..

end Plan

end Daemon

/-! ## Dispatching -/

/-- What an outcome means for the job that was handed out. -/
theorem Dispatcher.outcomeOf_cases (j : Job) (answer : Except Error Unit) :
    (answer = .ok () ∧ outcomeOf j answer = .started j.id) ∨
    (∃ e, answer = .error e ∧ outcomeOf j answer = .failed j.id e.message) ∨
    (∃ t, answer = .error (.executorNotFound t) ∧
      outcomeOf j answer = .unsupported j.id j.jobType) := by
  rcases answer with e | ⟨⟩
  · cases e
    case executorNotFound t => exact .inr (.inr ⟨t, rfl, rfl⟩)
    all_goals exact .inr (.inl ⟨_, rfl, rfl⟩)
  · exact .inl ⟨rfl, rfl⟩

@[simp] theorem Dispatcher.queue_count (d : Dispatcher) (o : Outcome) :
    (d.count o).queue = d.queue := by
  cases o <;> rfl

/-- The jobs after an outcome has been recorded. -/
def Job.Archive.settle (now : Instant) (a : Archive) : Dispatcher.Outcome → Archive
  | .started id => a.modify id (Job.advance now .running none)
  | .failed id reason => a.modify id (Job.advance now .failed (some reason))
  | .unsupported _ _ => a

theorem Job.Archive.Indexed.settle {a : Archive} (h : a.Indexed) (now : Instant)
    (o : Dispatcher.Outcome) : (a.settle now o).Indexed := by
  cases o with
  | started id => exact h.modify fun _ => rfl
  | failed id reason => exact h.modify fun _ => rfl
  | unsupported id jobType => exact h

theorem Job.Archive.Indexed.ids_settle {a : Archive} (h : a.Indexed) (now : Instant)
    (o : Dispatcher.Outcome) : (a.settle now o).toList.map (·.id) = a.toList.map (·.id) := by
  cases o with
  | started id => exact h.ids_modify fun _ => rfl
  | failed id reason => exact h.ids_modify fun _ => rfl
  | unsupported id jobType => rfl

namespace Daemon

variable {ε : Type} {p : Plan ε} {now : Instant} {d d' : Daemon ε} {j : Job}

/-- An outcome is recorded for a stored job, and for another one nothing is written. -/
theorem tolerate_record (now : Instant) (id : JobId) (status : JobStatus) (reason : Option String)
    (d : Daemon ε) :
    Action.tolerate (jobStore.record now id status reason) d =
      .ok () { d with jobs := d.jobs.modify id (Job.advance now status reason) } := by
  cases hf : d.jobs.find? id with
  | some j => exact Action.tolerate_of_ok (Action.zoom_of_ok (Job.Archive.record_of_find? hf))
  | none =>
    rw [Job.Archive.modify_of_find?_eq_none hf]
    refine Action.tolerate_of_error (e := .noSuchJob id) (Action.zoom_of_error ?_)
    change Job.Store.archive.record now id status reason d.jobs = .error _ d.jobs
    simp only [Job.Store.archive, Job.Archive.record, hf]

theorem recordOutcome_eq (now : Instant) (o : Dispatcher.Outcome) (d : Daemon ε) :
    Dispatcher.recordOutcome jobStore now o d = .ok () { d with jobs := d.jobs.settle now o } := by
  cases o with
  | started id => exact tolerate_record ..
  | failed id reason => exact tolerate_record ..
  | unsupported id jobType => rfl

/-- What can become of handing out the next job. -/
inductive Dispatched (p : Plan ε) (now : Instant) (d : Daemon ε) :
    Option Dispatcher.Outcome → Daemon ε → Prop
  | idle (empty : d.dispatcher.queue.pop? = none) : Dispatched p now d none d
  | handed {j : Job} {queue : Job.Queue} {answer : Except Error Unit} {e : ε}
      (popped : d.dispatcher.queue.pop? = some (j, queue))
      (launched : Action.attempt (p.registry.execute j) d.executors = .ok answer e) :
      Dispatched p now d (some (Dispatcher.outcomeOf j answer)) { d with
        jobs := d.jobs.settle now (Dispatcher.outcomeOf j answer)
        dispatcher := { d.dispatcher with queue := queue }.count (Dispatcher.outcomeOf j answer)
        executors := e }

theorem dispatchNext_of_pop (now : Instant) {queue : Job.Queue} {answer : Except Error Unit} {e : ε}
    (popped : d.dispatcher.queue.pop? = some (j, queue))
    (launched : Action.attempt (p.registry.execute j) d.executors = .ok answer e) :
    dispatchNext p now d = .ok (some (Dispatcher.outcomeOf j answer)) { d with
      jobs := d.jobs.settle now (Dispatcher.outcomeOf j answer)
      dispatcher := { d.dispatcher with queue := queue }.count (Dispatcher.outcomeOf j answer)
      executors := e } := by
  have hread : Action.read dispatcherPart d = .ok d.dispatcher d := rfl
  have hwrite : Action.write dispatcherPart { d.dispatcher with queue := queue } d =
      .ok () { d with dispatcher := { d.dispatcher with queue := queue } } := rfl
  have hexecute : Action.attempt (p.executors.execute j)
      { d with dispatcher := { d.dispatcher with queue := queue } } =
      .ok answer { d with dispatcher := { d.dispatcher with queue := queue }, executors := e } := by
    rw [p.execute_eq]
    exact Action.attempt_zoom_ok.2 ⟨e, launched, rfl⟩
  rw [dispatchNext, Dispatcher.dispatchNext, Action.bind_of_ok hread]
  simp only [popped]
  rw [Action.bind_of_ok hwrite, Action.bind_of_ok hexecute,
    Action.bind_of_ok (Action.update_apply ..), Action.bind_of_ok (recordOutcome_eq ..)]
  rfl

theorem dispatchNext_ok {o : Option Dispatcher.Outcome} (h : dispatchNext p now d = .ok o d') :
    Dispatched p now d o d' := by
  cases hpop : d.dispatcher.queue.pop? with
  | none =>
    obtain ⟨x, u, hread, hrest⟩ := Action.bind_ok.1 h
    cases hread
    simp only [dispatcherPart, hpop] at hrest
    obtain ⟨rfl, rfl⟩ := Action.pure_ok.1 hrest
    exact .idle hpop
  | some next =>
    obtain ⟨j, queue⟩ := next
    obtain ⟨x, u, hread, hrest⟩ := Action.bind_ok.1 h
    cases hread
    simp only [dispatcherPart, hpop] at hrest
    obtain ⟨_, u, hwrite, hexecute⟩ := Action.bind_ok.1 hrest
    cases hwrite
    obtain ⟨answer, v, ha, -⟩ := Action.bind_ok.1 hexecute
    rw [p.execute_eq] at ha
    obtain ⟨e, hlaunch, rfl⟩ := Action.attempt_zoom_ok.1 ha
    rw [dispatchNext_of_pop now hpop hlaunch] at h
    cases h
    exact .handed hpop hlaunch

/-! ## Reconciling -/

/-- How a finished job leaves running. -/
def departure (f : Reconcile.Finished) : Job.Departure :=
  ⟨f.id, f.status, Reconcile.reasonFor f.status⟩

/-- What can become of looking at one job. -/
inductive Checked (p : Plan ε) (now : Instant) (j : Job) (d : Daemon ε) :
    Option Reconcile.Finished → Daemon ε → Prop
  /-- The executor knows of no end, or the job is not stored. -/
  | unchanged {answer : Except Error JobStatus} {e : ε}
      (asked : Action.attempt (p.registry.status j) d.executors = .ok answer e)
      (noEnd : ∀ status, answer = .ok status → status.isTerminal = true →
        d.jobs.find? j.id = none) :
      Checked p now j d none { d with executors := e }
  /-- The stored job is still running: it leaves running. -/
  | departed {status : JobStatus} {k : Job} {e e' : ε}
      (asked : Action.attempt (p.registry.status j) d.executors = .ok (.ok status) e)
      (terminal : status.isTerminal = true) (found : d.jobs.find? j.id = some k)
      (running : k.status = .running)
      (released : Action.tolerate (p.registry.release j) e = .ok () e') :
      Checked p now j d (some ⟨j.id, status⟩) { d with
        jobs := d.jobs.modify j.id (Job.advance now status (Reconcile.reasonFor status))
        executors := e' }
  /-- The stored job is not running any more: it is only released. -/
  | late {status : JobStatus} {k : Job} {e e' : ε}
      (asked : Action.attempt (p.registry.status j) d.executors = .ok (.ok status) e)
      (terminal : status.isTerminal = true) (found : d.jobs.find? j.id = some k)
      (notRunning : k.status ≠ .running)
      (released : Action.tolerate (p.registry.release j) e = .ok () e') :
      Checked p now j d none { d with executors := e' }

theorem check_ok {r : Option Reconcile.Finished}
    (h : Reconcile.check p.executors jobStore now j d = .ok r d') : Checked p now j d r d' := by
  obtain ⟨answer, u, ha, hrest⟩ := Action.bind_ok.1 h
  rw [p.status_eq] at ha
  obtain ⟨e, hasked, rfl⟩ := Action.attempt_zoom_ok.1 ha
  cases answer with
  | error err =>
    obtain ⟨rfl, rfl⟩ := Action.pure_ok.1 hrest
    exact .unchanged hasked fun _ herr => by cases herr
  | ok status =>
    by_cases hterm : status.isTerminal = true
    · simp only [hterm, if_true] at hrest
      obtain ⟨moved, u, hattempt, hthen⟩ := Action.bind_ok.1 hrest
      rcases Action.attempt_ok hattempt with ⟨moved, rfl, hwrite⟩ | ⟨err, rfl, hwrite⟩
      · obtain ⟨a, hrecord, rfl⟩ := Action.zoom_ok.1 hwrite
        obtain ⟨_, v, hrel, hp⟩ := Action.bind_ok.1 hthen
        rw [p.release_eq] at hrel
        obtain ⟨e', hreleased, rfl⟩ := (Action.tolerate_zoom_ok executorsPart_lawful).1 hrel
        obtain ⟨rfl, rfl⟩ := Action.pure_ok.1 hp
        obtain ⟨k, hf, ⟨hs, rfl, rfl⟩ | ⟨hs, rfl, rfl⟩⟩ := Job.Archive.recordIf_ok hrecord
        · exact .departed hasked hterm hf hs hreleased
        · exact .late hasked hterm hf hs hreleased
      · -- The store reports an error only for a job that it does not have.
        obtain ⟨a, hrecord, rfl⟩ := Action.zoom_error.1 hwrite
        obtain ⟨rfl, rfl⟩ := Action.pure_ok.1 hthen
        obtain ⟨hf, rfl⟩ := Job.Archive.recordIf_error hrecord
        exact .unchanged hasked fun _ _ _ => hf
    · simp only [hterm] at hrest
      obtain ⟨rfl, rfl⟩ := Action.pure_ok.1 hrest
      refine .unchanged hasked fun other heq ht => ?_
      cases heq
      exact absurd ht hterm

/-- Looking at a list of jobs lets the finished ones leave running. -/
theorem checkAll_departs {js : List Job} {fs : List Reconcile.Finished} (hd : d.jobs.Indexed)
    (h : Reconcile.checkAll p.executors jobStore now js d = .ok fs d') :
    ∃ a e, d' = { d with jobs := a, executors := e } ∧
      Job.Archive.Departs now d.jobs (fs.map departure) a ∧
      ∀ f ∈ fs, f.status.isTerminal = true := by
  induction js generalizing d fs with
  | nil =>
    obtain ⟨rfl, rfl⟩ := Action.pure_ok.1 h
    exact ⟨d.jobs, d.executors, rfl, .nil _, fun _ hf => absurd hf List.not_mem_nil⟩
  | cons j rest ih =>
    obtain ⟨r, u, hc, hrest⟩ := Action.bind_ok.1 h
    obtain ⟨gs, v, hall, hp⟩ := Action.bind_ok.1 hrest
    obtain ⟨rfl, rfl⟩ := Action.pure_ok.1 hp
    cases check_ok hc with
    | @unchanged _ e _ _ => exact ih (d := { d with executors := e }) hd hall
    | @late _ _ _ e _ _ _ _ _ => exact ih (d := { d with executors := e }) hd hall
    | departed asked terminal found running released =>
      obtain ⟨a, e, rfl, hdep, hterm⟩ := ih (hd.modify fun _ => Job.id_advance ..) hall
      refine ⟨a, e, rfl, .cons found running hdep, ?_⟩
      intro f hf
      rcases List.mem_cons.1 hf with rfl | hf
      · exact terminal
      · exact hterm f hf

theorem reconcile_departs {fs : List Reconcile.Finished} (hd : d.jobs.Indexed)
    (h : reconcile p now d = .ok fs d') :
    ∃ a e, d' = { d with jobs := a, executors := e } ∧
      Job.Archive.Departs now d.jobs (fs.map departure) a ∧
      ∀ f ∈ fs, f.status.isTerminal = true := by
  obtain ⟨js, u, hread, hall⟩ := Action.bind_ok.1 h
  obtain rfl := (Action.reads_zoom jobsPart_lawful
    (Job.Archive.withStatus_reads [.running])).eq_of_ok hread
  exact checkAll_departs hd hall

/-! ## Admission -/

theorem release_of_ok {t : Bindings Quota}
    (h : Quota.Store.table.releaseFor j d.quotas = .ok () t) :
    release j d = .ok () { d with quotas := t } := by
  rw [release, quotaStore, Quota.Store.within_releaseFor quotasPart_lawful]
  exact Action.tolerate_of_ok (Action.zoom_of_ok h)

theorem releaseOf_of_find? {id : JobId} (h : d.jobs.find? id = some j) :
    releaseOf id d = release j d := by
  have hf : jobStore.find id d = .ok j d := Action.zoom_of_ok (Job.Archive.find_of_find? h)
  exact Action.bind_of_ok (Action.attempt_of_ok hf)

theorem keeps_release {I : Daemon ε → Prop} (h : ∀ d t, I d → I { d with quotas := t }) (j : Job) :
    Action.Keeps I (release j) := by
  rw [release, quotaStore, Quota.Store.within_releaseFor quotasPart_lawful]
  exact Action.keeps_tolerate (Action.keeps_zoom h)

/-- Giving units back changes quotas only. -/
theorem release_quotas (h : release j d = .ok () d') : ∃ t, d' = { d with quotas := t } := by
  have hkeeps : Action.Keeps (fun x => ∃ t, x = { d with quotas := t }) (release j) := by
    refine keeps_release ?_ j
    rintro _ t ⟨_, rfl⟩
    exact ⟨t, rfl⟩
  exact hkeeps.of_ok ⟨d.quotas, rfl⟩ h

theorem releaseOf_quotas {id : JobId} (h : releaseOf id d = .ok () d') :
    ∃ t, d' = { d with quotas := t } := by
  obtain ⟨found, u, hread, hrest⟩ := Action.bind_ok.1 h
  have hreads : Action.Reads (Action.attempt (jobStore.find id : Action (Daemon ε) Job)) := by
    refine Action.reads_iff_keeps.2 fun I => Action.keeps_attempt ?_
    exact (Action.reads_zoom jobsPart_lawful (Job.Archive.find_reads id)).keeps
  obtain rfl := hreads.eq_of_ok hread
  cases found with
  | ok j => exact release_quotas hrest
  | error e =>
    obtain ⟨-, rfl⟩ := Action.pure_ok.1 hrest
    exact ⟨_, rfl⟩

theorem releaseAll_quotas {ids : List JobId} (h : releaseAll ids d = .ok () d') :
    ∃ t, d' = { d with quotas := t } := by
  induction ids generalizing d with
  | nil =>
    obtain ⟨-, rfl⟩ := Action.pure_ok.1 h
    exact ⟨d.quotas, rfl⟩
  | cons id rest ih =>
    obtain ⟨_, u, hfirst, hrest⟩ := Action.bind_ok.1 h
    obtain ⟨_, rfl⟩ := releaseOf_quotas hfirst
    obtain ⟨t, rfl⟩ := ih hrest
    exact ⟨t, rfl⟩

/-- The plan of a built daemon. -/
def Plan.IsBuilt (p : Plan ε) : Prop :=
  ∃ settings registry cluster, build settings registry cluster = .ok p

/-- A built daemon knows two strategies, over the stored jobs. -/
theorem Plan.IsBuilt.known (hp : p.IsBuilt) : ∃ policy : Preemption.Policy, ∀ name x,
    p.strategies.known.get? name = some x →
      x = Preemption.cumulative jobStore policy .newestFirst ∨
      x = Preemption.tierWeight jobStore policy := by
  obtain ⟨settings, registry, cluster, hb⟩ := hp
  unfold build at hb
  split at hb
  next => cases hb
  next strategies hs =>
    cases hb
    unfold Preemption.Strategies.activate at hs
    split at hs
    next =>
      cases hs
      refine ⟨settings.preemption.policy, fun name x hx => ?_⟩
      simp only [knownStrategies, Preemption.Strategies.register, Bindings.get?_set] at hx
      split at hx
      next => exact .inr (Option.some.inj hx).symm
      next =>
        split at hx
        next => exact .inl (Option.some.inj hx).symm
        next => cases hx
    next => cases hs

theorem Plan.IsBuilt.decide_reads (hp : p.IsBuilt) (q : Requirement) :
    Action.Reads (p.strategies.decide q) := by
  obtain ⟨policy, hknown⟩ := hp.known
  refine Preemption.Strategies.decide_reads fun name x hx => ?_
  rcases hknown name x hx with rfl | rfl
  · exact Preemption.cumulative_reads jobsPart_lawful _ _ q
  · exact Preemption.tierWeight_reads jobsPart_lawful _ q

theorem shortage_reads : Action.Reads (Monitor.shortageIn monitorPart : Action (Daemon ε) Bool) :=
  Action.reads_bind (fun _ => rfl) fun _ => Action.reads_ofExcept _

/-- Making room lets the victims leave running and gives their units back. -/
theorem makeRoomFor_ok (hp : p.IsBuilt) (hd : d.jobs.Indexed)
    (h : makeRoomFor p now j d = .ok () d') :
    ∃ ids reason a, Job.Archive.Departs now d.jobs (Preemption.departures reason ids) a ∧
      releaseAll ids { d with jobs := a } = .ok () d' := by
  obtain ⟨answer, u, hattempt, hrest⟩ := Action.bind_ok.1 h
  have hreads := hp.decide_reads (.forJob j)
  rcases Action.attempt_ok hattempt with ⟨ids, rfl, hm⟩ | ⟨e, rfl, hm⟩
  · obtain ⟨reason, a, hdep, rfl⟩ :=
      Preemption.makeRoom_ok jobsPart_lawful shortage_reads hreads hd hm
    exact ⟨ids, reason, a, hdep, hrest⟩
  · obtain rfl := Preemption.makeRoom_error jobsPart_lawful shortage_reads hreads hd hm
    obtain ⟨-, rfl⟩ := Action.pure_ok.1 hrest
    exact ⟨[], "", u.jobs, .nil _, Action.pure_apply () u⟩

/-- What can become of a job that is handed in. -/
inductive Submitted (p : Plan ε) (now : Instant) (j : Job) (d : Daemon ε) :
    Except Refusal Unit → Daemon ε → Prop
  /-- The units are not there. -/
  | rejected {e : Error} : Submitted p now j d (.error (rejected j.id e)) d
  /-- The job cannot be stored: its units are given back. -/
  | notStored {e : Error} {t : Bindings Quota} {d' : Daemon ε}
      (reserved : Quota.Store.table.reserveFor j d.quotas = .ok () t)
      (released : release j { d with quotas := t } = .ok () d') :
      Submitted p now j d (.error (notStored e)) d'
  | admitted {t : Bindings Quota} {a : Job.Archive} {d' : Daemon ε}
      (reserved : Quota.Store.table.reserveFor j d.quotas = .ok () t)
      (stored : d.jobs.add j = .ok a)
      (room : makeRoomFor p now j { d with jobs := a, quotas := t } = .ok () d') :
      Submitted p now j d (.ok ()) { d' with dispatcher := d'.dispatcher.enqueue j }

theorem submit_ok {answer : Except Refusal Unit} (h : submit p now j d = .ok answer d') :
    Submitted p now j d answer d' := by
  obtain ⟨r, u, hattempt, hrest⟩ := Action.bind_ok.1 h
  rw [quotaStore, Quota.Store.within_reserveFor quotasPart_lawful] at hattempt
  rcases Action.attempt_ok hattempt with ⟨_, rfl, hzoom⟩ | ⟨e, rfl, hzoom⟩
  · obtain ⟨t, hreserved, rfl⟩ := Action.zoom_ok.1 hzoom
    obtain ⟨c, v, htry, hthen⟩ := Action.bind_ok.1 hrest
    rcases Action.attempt_ok htry with ⟨_, rfl, hcreate⟩ | ⟨e, rfl, hcreate⟩
    · obtain ⟨a, hstored, rfl⟩ := Action.zoom_ok.1 hcreate
      obtain ⟨_, w, hroom, henqueue⟩ := Action.bind_ok.1 hthen
      obtain ⟨_, x, hqueue, hp⟩ := Action.bind_ok.1 henqueue
      cases hqueue
      obtain ⟨rfl, rfl⟩ := Action.pure_ok.1 hp
      exact .admitted hreserved (Job.Archive.create_ok hstored) hroom
    · obtain ⟨a, hrefused, rfl⟩ := Action.zoom_error.1 hcreate
      obtain rfl := Job.Archive.create_error hrefused
      obtain ⟨_, w, hreleased, hp⟩ := Action.bind_ok.1 hthen
      obtain ⟨rfl, rfl⟩ := Action.pure_ok.1 hp
      exact .notStored hreserved hreleased
  · obtain ⟨t, hrefused, rfl⟩ := Action.zoom_error.1 hzoom
    obtain rfl := Quota.Store.reserveFor_error hrefused
    obtain ⟨rfl, rfl⟩ := Action.pure_ok.1 hrest
    exact .rejected

theorem reserveFor_of_ok {t : Bindings Quota}
    (reserved : Quota.Store.table.reserveFor j d.quotas = .ok () t) :
    Action.attempt (quotaStore.reserveFor j) d = .ok (.ok ()) { d with quotas := t } := by
  rw [quotaStore, Quota.Store.within_reserveFor quotasPart_lawful]
  exact Action.attempt_of_ok (Action.zoom_of_ok reserved)

/-- A job whose units are refused is refused. -/
theorem submit_of_refused {e : Error}
    (refused : Quota.Store.table.reserveFor j d.quotas = .error (.error e) d.quotas) :
    submit p now j d = .ok (.error (rejected j.id e)) d := by
  have hreserve : Action.attempt (quotaStore.reserveFor j) d = .ok (.error e) d := by
    rw [quotaStore, Quota.Store.within_reserveFor quotasPart_lawful]
    exact Action.attempt_of_error (Action.zoom_of_error refused)
  exact Action.bind_of_ok hreserve

/-- A job that cannot be stored gives its units back and is refused. -/
theorem submit_of_unstored {t u : Bindings Quota} {e : Error}
    (reserved : Quota.Store.table.reserveFor j d.quotas = .ok () t)
    (unstored : Job.Store.archive.create j d.jobs = .error (.error e) d.jobs)
    (back : Quota.Store.table.releaseFor j t = .ok () u) :
    submit p now j d = .ok (.error (notStored e)) { d with quotas := u } := by
  have hcreate : Action.attempt (jobStore.create j) { d with quotas := t } =
      .ok (.error e) { d with quotas := t } :=
    Action.attempt_of_error (Action.zoom_of_error unstored)
  have hback : release j { d with quotas := t } = .ok () { d with quotas := u } :=
    release_of_ok back
  rw [submit, Action.bind_of_ok (reserveFor_of_ok reserved)]
  dsimp only
  rw [Action.bind_of_ok hcreate]
  dsimp only
  rw [Action.bind_of_ok hback]
  rfl

/-- A job whose units are there and whose identity is new is admitted. -/
theorem submit_of_add {t : Bindings Quota} {a : Job.Archive}
    (reserved : Quota.Store.table.reserveFor j d.quotas = .ok () t) (stored : d.jobs.add j = .ok a)
    (room : makeRoomFor p now j { d with jobs := a, quotas := t } = .ok () d') :
    submit p now j d = .ok (.ok ()) { d' with dispatcher := d'.dispatcher.enqueue j } := by
  have hcreate : Action.attempt (jobStore.create j) { d with quotas := t } =
      .ok (.ok ()) { d with jobs := a, quotas := t } := by
    refine Action.attempt_of_ok (Action.zoom_of_ok (Job.Archive.create_of_add ?_))
    exact stored
  rw [submit, Action.bind_of_ok (reserveFor_of_ok reserved)]
  dsimp only
  rw [Action.bind_of_ok hcreate]
  dsimp only
  rw [Action.bind_of_ok room]
  rfl

end Daemon

end GpuCluster
