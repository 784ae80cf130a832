import GpuCluster.Proofs.Daemon.Operations
import GpuCluster.Proofs.Job.Queue
import GpuCluster.Proofs.Runs

/-!
# Which terminal statuses last

Reconciling, preemption and calling off write a status only over the status they expect. The
dispatcher writes over any status.

* `Daemon.Move`, `Daemon.Moves` : a job is queued or called off, or a component takes a step;
* `Moves.quiet` : a move that hands out no job leaves terminal statuses alone;
* `Moves.status_iff` : the moves that end a terminal status;
* `terminal_kept_iff` : a terminal status lasts exactly if its job waits nowhere.
-/

namespace GpuCluster

namespace Daemon

variable {ε : Type} {p : Plan ε} {now : Instant} {d d' : Daemon ε} {j : Job} {id : JobId}
  {st : JobStatus}

/-! ## What the components keep -/

section Keeps
variable {I : Daemon ε → Prop} (hexec : ∀ d e, I d → I { d with executors := e })
  (hwrite : ∀ now id status reason,
    Action.Keeps I (jobStore.recordIf now id .running status reason))
include hexec hwrite

theorem keeps_check (p : Plan ε) (now : Instant) (j : Job) :
    Action.Keeps I (Reconcile.check p.executors jobStore now j) := by
  refine Action.keeps_bind ?_ fun answer => ?_
  · rw [p.status_eq]
    exact Action.keeps_attempt (Action.keeps_zoom hexec)
  · cases answer with
    | error e => exact Action.keeps_pure _
    | ok status =>
      dsimp only
      split
      next =>
        refine Action.keeps_bind (Action.keeps_attempt (hwrite _ _ _ _)) fun moved => ?_
        cases moved with
        | error e => exact Action.keeps_pure _
        | ok moved =>
          refine Action.keeps_bind (Action.keeps_tolerate ?_) fun _ => Action.keeps_pure _
          rw [p.release_eq]
          exact Action.keeps_zoom hexec
      next => exact Action.keeps_pure _

theorem keeps_reconcile (p : Plan ε) (now : Instant) : Action.Keeps I (reconcile p now) := by
  have hall : ∀ js, Action.Keeps I (Reconcile.checkAll p.executors jobStore now js) := by
    intro js
    induction js with
    | nil => exact Action.keeps_pure _
    | cons j rest ih =>
      refine Action.keeps_bind (keeps_check hexec hwrite p now j) fun _ => ?_
      exact Action.keeps_bind ih fun _ => Action.keeps_pure _
  refine Action.keeps_bind ?_ hall
  exact (Action.reads_zoom jobsPart_lawful (Job.Archive.withStatus_reads _)).keeps

/-- An evictor that works on the executors. -/
def evictorOn (evictor : Option (Preemption.Evictor ε)) : Option (Preemption.Evictor (Daemon ε)) :=
  evictor.map fun stop j grace => (stop j grace).zoom executorsPart

theorem keeps_perform {strategies : Preemption.Strategies (Preemption.Strategy (Daemon ε))}
    (hs : ∀ q, Action.Reads (strategies.decide q)) (evictor : Option (Preemption.Evictor ε))
    (now : Instant) (q : Requirement) :
    Action.Keeps I (Preemption.perform strategies jobStore (evictorOn evictor) now q) := by
  have hevict : ∀ j grace, Action.Keeps I (Preemption.evict (evictorOn evictor) j grace) := by
    intro j grace
    cases evictor with
    | none => exact Action.keeps_pure _
    | some stop => exact Action.keeps_tolerate (Action.keeps_zoom hexec)
  have hcheck : ∀ ids,
      Action.Keeps I (Preemption.checkVictims (jobStore : Job.Store (Daemon ε)) ids) := by
    intro ids
    induction ids with
    | nil => exact Action.keeps_pure _
    | cons id rest ih =>
      refine Action.keeps_bind ?_ fun j => ?_
      · exact (Action.reads_zoom jobsPart_lawful (Job.Archive.find_reads id)).keeps
      · split
        next => exact Action.keeps_fail _
        next => exact Action.keeps_bind ih fun _ => Action.keeps_pure _
  have hvictims : ∀ c js,
      Action.Keeps I (Preemption.writeVictims jobStore (evictorOn evictor) now c js) := by
    intro c js
    induction js with
    | nil => exact Action.keeps_pure _
    | cons j rest ih =>
      refine Action.keeps_bind (hwrite _ _ _ _) fun moved => ?_
      split
      next =>
        refine Action.keeps_bind (hevict _ _) fun _ => ?_
        exact Action.keeps_bind ih fun _ => Action.keeps_pure _
      next => exact ih
  refine Action.keeps_bind (hs q).keeps fun c => ?_
  split
  next => exact Action.keeps_pure _
  next =>
    refine Action.keeps_bind (hcheck _) fun js => ?_
    exact Action.keeps_bind (hvictims c js) fun _ => Action.keeps_pure _

end Keeps

/-! ## Moves -/

/-- A job is queued or called off, or a component takes a step, with the answer it got. -/
inductive Move where
  | enqueue (j : Job)
  | dispatch (outcome : Option Dispatcher.Outcome)
  | reconcile (finished : List Reconcile.Finished)
  | preempt (answer : Except Error Preemption.Decision)
  /-- An operator calls a job off. -/
  | cancel (id : JobId) (answer : Except Error Bool)

/-- One move. Any job may be queued, the executors may answer anything, and any strategy that
writes nothing may choose the victims. -/
inductive Moves (d : Daemon ε) : Move → Daemon ε → Prop
  | enqueue (j : Job) :
      Moves d (.enqueue j) { d with dispatcher := d.dispatcher.enqueue j }
  | dispatch {p : Plan ε} {now : Instant} {outcome : Option Dispatcher.Outcome} {d' : Daemon ε}
      (dispatched : dispatchNext p now d = .ok outcome d') : Moves d (.dispatch outcome) d'
  | reconcile {p : Plan ε} {now : Instant} {finished : List Reconcile.Finished} {d' : Daemon ε}
      (reconciled : Daemon.reconcile p now d = .ok finished d') :
      Moves d (.reconcile finished) d'
  | preempt {strategies : Preemption.Strategies (Preemption.Strategy (Daemon ε))}
      {evictor : Option (Preemption.Evictor ε)} {now : Instant} {q : Requirement}
      {answer : Except Error Preemption.Decision} {d' : Daemon ε}
      (reads : ∀ q, Action.Reads (strategies.decide q))
      (performed : Action.attempt
        (Preemption.perform strategies jobStore (evictorOn evictor) now q) d = .ok answer d') :
      Moves d (.preempt answer) d'
  | cancel {now : Instant} {id : JobId} {expected : JobStatus} {reason : Option String}
      {answer : Except Error Bool} {d' : Daemon ε}
      (unended : expected = .pending ∨ expected = .running)
      (cancelled : Action.attempt (jobStore.recordIf now id expected .cancelled reason) d =
        .ok answer d') :
      Moves d (.cancel id answer) d'

/-- The move hands the job to an executor and records a status other than this one. -/
def Move.Overrides (id : JobId) (st : JobStatus) : Move → Prop
  | dispatch (some (.started other)) => other = id
  | dispatch (some (.failed other _)) => other = id ∧ st ≠ .failed
  | _ => False

/-- The identities of the waiting jobs. -/
def waitingIds (d : Daemon ε) : List JobId := d.dispatcher.queue.waiting.map (·.id)

variable {m : Move}

/-- The queue is as it was, and every terminal status is still there. -/
structure Undisturbed (d₀ d : Daemon ε) : Prop where
  dispatcher : d.dispatcher = d₀.dispatcher
  indexed : d.jobs.Indexed
  terminal : ∀ id st, st.isTerminal = true → d₀.jobs.statusOf? id = some st →
    d.jobs.statusOf? id = some st

theorem Undisturbed.refl (hi : d.jobs.Indexed) : Undisturbed d d := ⟨rfl, hi, fun _ _ _ h => h⟩

theorem Undisturbed.executors {d₀ : Daemon ε} (h : Undisturbed d₀ d) (e : ε) :
    Undisturbed d₀ { d with executors := e } := ⟨h.dispatcher, h.indexed, h.terminal⟩

/-- A write over an expected status keeps the terminal statuses, if the expected one is none. -/
theorem keeps_recordIf (d₀ : Daemon ε) (now : Instant) (id : JobId) {expected : JobStatus}
    (hexp : expected.isTerminal = false) (status : JobStatus) (reason : Option String) :
    Action.Keeps (Undisturbed d₀) (jobStore.recordIf now id expected status reason) := by
  rintro d ⟨hq, hi, hkept⟩
  cases h : jobStore.recordIf now id expected status reason d with
  | error f u =>
    obtain ⟨a, ha, rfl⟩ := Action.zoom_error.1 h
    obtain ⟨-, rfl⟩ := Job.Archive.recordIf_error ha
    rw [Action.after_of_error h]
    exact ⟨hq, hi, hkept⟩
  | ok moved u =>
    rw [Action.after_of_ok h]
    obtain ⟨a, ha, rfl⟩ := Action.zoom_ok.1 h
    obtain ⟨j, hf, ⟨hs, -, rfl⟩ | ⟨-, -, rfl⟩⟩ := Job.Archive.recordIf_ok ha
    · refine ⟨hq, hi.modify fun _ => Job.id_advance .., fun other st ht hst => ?_⟩
      have hbefore := hkept other st ht hst
      change (d.jobs.modify id _).statusOf? other = some st
      rw [hi.statusOf?_advance, hbefore]
      refine congrArg some (if_neg ?_)
      rintro rfl
      -- The job that is written had the expected status, so it had no terminal one.
      have hexpected := Job.Archive.statusOf?_of_find? hf
      change d.jobs.statusOf? other = _ at hexpected
      rw [hbefore, hs] at hexpected
      obtain rfl := Option.some.inj hexpected
      rw [hexp] at ht
      cases ht
    · exact ⟨hq, hi, hkept⟩

/-- A move that neither queues nor hands out a job leaves the queue and terminal statuses alone. -/
theorem Moves.quiet (h : Moves d m d') (hi : d.jobs.Indexed) (henq : ∀ j, m ≠ .enqueue j)
    (hdis : ∀ o, m ≠ .dispatch o) : Undisturbed d d' := by
  have hstart := Undisturbed.refl hi
  cases h with
  | enqueue j => exact absurd rfl (henq j)
  | dispatch dispatched => exact absurd rfl (hdis _)
  | reconcile reconciled =>
    refine (keeps_reconcile (fun _ e h => h.executors e) ?_ _ _).of_ok hstart reconciled
    exact fun now id status reason => keeps_recordIf d now id rfl status reason
  | preempt reads performed =>
    refine (Action.keeps_attempt (keeps_perform (fun _ e h => h.executors e) ?_ reads _ _ _)).of_ok
      hstart performed
    exact fun now id status reason => keeps_recordIf d now id rfl status reason
  | cancel unended cancelled =>
    have hexp : ∀ expected, expected = JobStatus.pending ∨ expected = .running →
        expected.isTerminal = false := by
      rintro _ (rfl | rfl) <;> rfl
    exact (Action.keeps_attempt (keeps_recordIf d _ _ (hexp _ unended) .cancelled _)).of_ok
      hstart cancelled

/-- What handing out a job does to the queue and to the stored statuses. -/
theorem dispatch_cases {outcome : Option Dispatcher.Outcome} (hi : d.jobs.Indexed)
    (hn : d.dispatcher.queue.Numbered) (h : dispatchNext p now d = .ok outcome d') :
    d'.jobs.Indexed ∧ d'.dispatcher.queue.Numbered ∧
      (∀ id ∈ d'.waitingIds, id ∈ d.waitingIds) ∧
      ((outcome = none ∧ d' = d) ∨
        (∃ i t, outcome = some (.unsupported i t) ∧ d'.jobs = d.jobs) ∨
        (∃ i, outcome = some (.started i) ∧ i ∈ d.waitingIds ∧ ∀ id,
          d'.jobs.statusOf? id = (d.jobs.statusOf? id).map fun s => if id = i then .running else s) ∨
        ∃ i r, outcome = some (.failed i r) ∧ i ∈ d.waitingIds ∧ ∀ id,
          d'.jobs.statusOf? id = (d.jobs.statusOf? id).map fun s => if id = i then .failed else s) := by
  cases dispatchNext_ok h with
  | idle => exact ⟨hi, hn, fun _ h => h, .inl ⟨rfl, rfl⟩⟩
  | @handed j queue answer e popped launched =>
    obtain ⟨hperm, hn'⟩ := Job.Queue.waiting_pop? hn popped
    have hsub : ∀ k ∈ j :: queue.waiting, k ∈ d.dispatcher.queue.waiting :=
      fun k hk => hperm.mem_iff.2 hk
    have hj : j.id ∈ d.waitingIds := List.mem_map.2 ⟨j, hsub j List.mem_cons_self, rfl⟩
    refine ⟨hi.settle now _, ?_, fun id hid => ?_, ?_⟩
    · rw [Dispatcher.queue_count]
      exact hn'
    · rw [waitingIds, Dispatcher.queue_count] at hid
      obtain ⟨k, hk, rfl⟩ := List.mem_map.1 hid
      exact List.mem_map.2 ⟨k, hsub k (List.mem_cons_of_mem _ hk), rfl⟩
    · rcases Dispatcher.outcomeOf_cases j answer with ⟨-, ho⟩ | ⟨err, -, ho⟩ | ⟨t, -, ho⟩
      · rw [ho]
        exact .inr (.inr (.inl ⟨j.id, rfl, hj, fun id => hi.statusOf?_advance ..⟩))
      · rw [ho]
        exact .inr (.inr (.inr ⟨j.id, _, rfl, hj, fun id => hi.statusOf?_advance ..⟩))
      · rw [ho]
        exact .inr (.inl ⟨j.id, _, rfl, rfl⟩)

/-- The moves that end a terminal status, and only for a job that waits. -/
theorem Moves.status_iff (h : Moves d m d') (hi : d.jobs.Indexed)
    (hn : d.dispatcher.queue.Numbered) (hs : d.jobs.statusOf? id = some st)
    (ht : st.isTerminal = true) :
    (d'.jobs.statusOf? id = some st ↔ ¬ m.Overrides id st) ∧
      (m.Overrides id st → id ∈ d.waitingIds) := by
  have hquiet : (∀ j, m ≠ .enqueue j) → (∀ o, m ≠ .dispatch o) → d'.jobs.statusOf? id = some st :=
    fun henq hdis => (h.quiet hi henq hdis).terminal id st ht hs
  cases m with
  | enqueue j =>
    cases h with
    | enqueue => exact ⟨⟨fun _ hno => hno, fun _ => hs⟩, False.elim⟩
  | reconcile fs =>
    exact ⟨⟨fun _ hno => hno, fun _ => hquiet (fun _ => nofun) fun _ => nofun⟩, False.elim⟩
  | preempt answer =>
    exact ⟨⟨fun _ hno => hno, fun _ => hquiet (fun _ => nofun) fun _ => nofun⟩, False.elim⟩
  | cancel i answer =>
    exact ⟨⟨fun _ hno => hno, fun _ => hquiet (fun _ => nofun) fun _ => nofun⟩, False.elim⟩
  | dispatch o =>
    cases h with
    | dispatch dispatched =>
      obtain ⟨-, -, -, hcases⟩ := dispatch_cases hi hn dispatched
      rcases hcases with ⟨rfl, rfl⟩ | ⟨i, t, rfl, hjobs⟩ | ⟨i, rfl, hw, hst⟩ | ⟨i, r, rfl, hw, hst⟩
      · exact ⟨⟨fun _ hno => hno, fun _ => hs⟩, False.elim⟩
      · rw [hjobs]
        exact ⟨⟨fun _ hno => hno, fun _ => hs⟩, False.elim⟩
      · refine ⟨?_, fun heq => ?_⟩
        · rw [hst, hs, Option.map_some, Option.some.injEq, ite_eq_right_iff]
          constructor
          · rintro himp rfl
            rw [← himp rfl] at ht
            cases ht
          · exact fun hne heq => absurd heq.symm hne
        · obtain rfl : i = id := heq
          exact hw
      · refine ⟨?_, fun hover => ?_⟩
        · rw [hst, hs, Option.map_some, Option.some.injEq, ite_eq_right_iff]
          constructor
          · rintro himp ⟨rfl, hne⟩
            exact hne (himp rfl).symm
          · intro hnot heq
            by_contra hne
            exact hnot ⟨heq.symm, fun hst => hne hst.symm⟩
        · obtain ⟨rfl, -⟩ : i = id ∧ _ := hover
          exact hw

/-! ## Runs -/

/-- The stored jobs and the queue as moves leave them. -/
structure Sound (d : Daemon ε) : Prop where
  indexed : d.jobs.Indexed
  numbered : d.dispatcher.queue.Numbered

theorem Moves.sound (h : Moves d m d') (hd : d.Sound) : d'.Sound := by
  have hquiet : (∀ j, m ≠ .enqueue j) → (∀ o, m ≠ .dispatch o) → d'.Sound := by
    intro henq hdis
    have hund := h.quiet hd.indexed henq hdis
    refine ⟨hund.indexed, ?_⟩
    rw [hund.dispatcher]
    exact hd.numbered
  cases m with
  | enqueue j =>
    cases h with
    | enqueue => exact ⟨hd.indexed, hd.numbered.push j⟩
  | dispatch o =>
    cases h with
    | dispatch dispatched =>
      obtain ⟨hi, hn, -⟩ := dispatch_cases hd.indexed hd.numbered dispatched
      exact ⟨hi, hn⟩
  | reconcile fs => exact hquiet (fun _ => nofun) fun _ => nofun
  | preempt answer => exact hquiet (fun _ => nofun) fun _ => nofun
  | cancel i answer => exact hquiet (fun _ => nofun) fun _ => nofun

/-- Only a queueing adds to the waiting jobs. -/
theorem Moves.waiting (h : Moves d m d') (hd : d.Sound) (henq : ∀ j, m = .enqueue j → j.id ≠ id)
    (hid : id ∉ d.waitingIds) : id ∉ d'.waitingIds := by
  have hquiet : (∀ j, m ≠ .enqueue j) → (∀ o, m ≠ .dispatch o) → id ∉ d'.waitingIds := by
    intro hno hdis
    rwa [waitingIds, (h.quiet hd.indexed hno hdis).dispatcher]
  cases m with
  | enqueue j =>
    cases h with
    | enqueue =>
      intro hmem
      rcases List.mem_cons.1 hmem with heq | hmem
      · exact henq j rfl heq.symm
      · exact hid hmem
  | dispatch o =>
    cases h with
    | dispatch dispatched =>
      obtain ⟨-, -, hsub, -⟩ := dispatch_cases hd.indexed hd.numbered dispatched
      exact fun hmem => hid (hsub id hmem)
  | reconcile fs => exact hquiet (fun _ => nofun) fun _ => nofun
  | preempt answer => exact hquiet (fun _ => nofun) fun _ => nofun
  | cancel i answer => exact hquiet (fun _ => nofun) fun _ => nofun

variable {ms : List Move}

/-- The terminal status of a job that waits nowhere lasts. -/
theorem terminal_kept (h : Runs Moves d ms d') (hd : d.Sound)
    (hs : d.jobs.statusOf? id = some st) (ht : st.isTerminal = true)
    (hid : id ∉ d.waitingIds) (henq : ∀ j, .enqueue j ∈ ms → j.id ≠ id) :
    d'.jobs.statusOf? id = some st := by
  have hall : d'.Sound ∧ id ∉ d'.waitingIds ∧ d'.jobs.statusOf? id = some st := by
    induction h with
    | nil => exact ⟨hd, hid, hs⟩
    | @snoc es m t u _ last ih =>
      obtain ⟨hd', hid', hs'⟩ := ih fun j hj => henq j (List.mem_append_left _ hj)
      refine ⟨last.sound hd', last.waiting hd' (fun j hj => ?_) hid', ?_⟩
      · exact henq j (List.mem_append_right _ (hj ▸ List.mem_singleton_self m))
      · obtain ⟨hiff, hw⟩ := last.status_iff hd'.indexed hd'.numbered hs' ht
        exact hiff.2 fun hover => hid' (hw hover)
  exact hall.2.2

/-- An executor that takes every job. -/
def accepting : Executor ε where
  name := "accepting"
  supports _ := true
  execute _ := pure ()
  cancel _ := pure ()
  status _ := pure .running
  logs _ := pure ""
  release _ := pure ()

/-- A plan with such an executor for one type. -/
def acceptingPlan (jobType : String) : Plan ε where
  settings := {}
  registry := Executor.Registry.empty.register jobType accepting
  strategies := .empty
  backend := none
  cluster := none

/-- A waiting job can be handed out, after those before it, whatever its stored status. -/
theorem exists_started (hd : d.Sound) (hw : id ∈ d.waitingIds)
    (hs : ∃ s, d.jobs.statusOf? id = some s) :
    ∃ ms d', Runs Moves d ms d' ∧ (∀ j, .enqueue j ∉ ms) ∧
      d'.jobs.statusOf? id = some .running := by
  -- By induction on the number of waiting jobs: each dispatch hands one out.
  induction hlen : d.dispatcher.queue.waiting.length generalizing d with
  | zero =>
    rw [waitingIds, List.length_eq_zero_iff.1 hlen] at hw
    exact absurd hw List.not_mem_nil
  | succ n ih =>
    cases hpop : d.dispatcher.queue.pop? with
    | none =>
      rw [Job.Queue.waiting, Job.Queue.pop?_eq_none_iff.1 hpop] at hlen
      cases hlen
    | some next =>
      obtain ⟨j, queue⟩ := next
      obtain ⟨hperm, hn⟩ := Job.Queue.waiting_pop? hd.numbered hpop
      have hfind :
          (acceptingPlan j.jobType : Plan ε).registry.find? j.jobType = some accepting := by
        rw [acceptingPlan, Executor.Registry.find?_register, if_pos rfl]
      have hlaunch : Action.attempt ((acceptingPlan j.jobType).registry.execute j) d.executors =
          .ok (.ok ()) d.executors := by
        rw [Executor.Registry.execute_of_find? hfind]
        rfl
      have hstep := dispatchNext_of_pop default hpop hlaunch
      have hmove := Moves.dispatch hstep
      have hd' := hmove.sound hd
      have hstatus : ∀ other, (d.jobs.settle default (.started j.id)).statusOf? other =
          (d.jobs.statusOf? other).map fun s => if other = j.id then .running else s :=
        fun other => hd.indexed.statusOf?_advance ..
      obtain ⟨s, hs⟩ := hs
      by_cases hid : id = j.id
      · refine ⟨_, _, Runs.single hmove, fun k hk => ?_, ?_⟩
        · cases List.mem_singleton.1 hk
        · refine (hstatus id).trans ?_
          rw [hs, Option.map_some, if_pos hid]
      · have hw' : id ∈ queue.waiting.map (·.id) := by
          rcases List.mem_cons.1 ((hperm.map (·.id)).mem_iff.1 hw) with heq | hmem
          · exact absurd heq hid
          · exact hmem
        have hs' : (d.jobs.settle default (.started j.id)).statusOf? id = some s := by
          rw [hstatus, hs, Option.map_some, if_neg hid]
        have hlen' : queue.waiting.length = n := by
          have hperm' := hperm.length_eq
          rw [hlen, List.length_cons] at hperm'
          exact (Nat.succ.inj hperm').symm
        obtain ⟨ms, d', hrun, hno, hst⟩ := ih hd' hw' ⟨s, hs'⟩ hlen'
        refine ⟨_, d', (Runs.single hmove).append hrun, fun k hk => ?_, hst⟩
        rcases List.mem_append.1 hk with hk | hk
        · cases List.mem_singleton.1 hk
        · exact hno k hk

/-- From any stored jobs, in every reachable state: a terminal status is ended by the very moves
that override it, and it lasts as long as the job is not queued again exactly if no copy of the job
is waiting. -/
theorem terminal_kept_iff {d₀ : Daemon ε} (hi : d₀.jobs.Indexed)
    (hq : d₀.dispatcher.queue = .empty) (h : Runs Moves d₀ ms d)
    (hs : d.jobs.statusOf? id = some st) (ht : st.isTerminal = true) :
    (∀ m d', Moves d m d' → (d'.jobs.statusOf? id = some st ↔ ¬ m.Overrides id st)) ∧
    ((∀ ms' d', Runs Moves d ms' d' → (∀ j, .enqueue j ∈ ms' → j.id ≠ id) →
        d'.jobs.statusOf? id = some st) ↔ id ∉ d.waitingIds) := by
  have hd₀ : d₀.Sound := ⟨hi, hq ▸ Job.Queue.numbered_empty⟩
  have hd : d.Sound :=
    h.invariant (I := fun _ d => d.Sound) hd₀ fun _ _ _ _ hsound hmove => hmove.sound hsound
  refine ⟨fun m d' hm => (hm.status_iff hd.indexed hd.numbered hs ht).1, ?_, ?_⟩
  · intro hkept hw
    obtain ⟨ms', d', hrun, hno, hrunning⟩ := exists_started hd hw ⟨st, hs⟩
    have hst := hkept ms' d' hrun fun j hj => absurd hj (hno j)
    rw [hrunning] at hst
    obtain rfl := Option.some.inj hst
    cases ht
  · exact fun hid ms' d' hrun henq => terminal_kept hrun hd hs ht hid henq

/-- A plain job without any demands. -/
def plainJob : Job := { id := ⟨7#128⟩, createdAt := ⟨0, 0⟩ }

/-- A job that is queued and then called off does not stay cancelled. -/
theorem terminal_kept_iff_cancelled : ∃ (d₀ d : Daemon Unit) (ms ms' : List Move) (d' : Daemon Unit),
    (∀ j ∈ d₀.jobs.toList, j.status = .pending) ∧ Runs Moves d₀ ms d ∧
    d.jobs.statusOf? plainJob.id = some .cancelled ∧ Runs Moves d ms' d' ∧
    (∀ j, .enqueue j ∈ ms' → j.id ≠ plainJob.id) ∧
    d'.jobs.statusOf? plainJob.id ≠ some .cancelled := by
  obtain ⟨a, ha⟩ := Job.Archive.exists_add_empty plainJob
  have hlist : a.toList = [plainJob] := Job.Archive.toList_add ha
  have hindexed : a.Indexed := Job.Archive.indexed_empty.add ha
  have hfind : a.find? plainJob.id = some plainJob :=
    hindexed.find?_of_mem (hlist ▸ List.mem_singleton_self _)
  let d₀ : Daemon Unit := { executors := (), jobs := a }
  let d₁ : Daemon Unit := { d₀ with dispatcher := d₀.dispatcher.enqueue plainJob }
  let d₂ : Daemon Unit :=
    { d₁ with jobs := a.modify plainJob.id (Job.advance ⟨1, 0⟩ .cancelled none) }
  have hcancel : Action.attempt (jobStore.recordIf ⟨1, 0⟩ plainJob.id .pending .cancelled none) d₁ =
      .ok (.ok true) d₂ := by
    refine Action.attempt_of_ok (Action.zoom_of_ok ?_)
    change Job.Store.archive.recordIf ⟨1, 0⟩ plainJob.id .pending .cancelled none a = _
    simp only [Job.Store.archive, Job.Archive.recordIf, hfind]
    rfl
  have hrun : Runs Moves d₀ _ d₂ :=
    (Runs.single (.enqueue plainJob)).snoc (.cancel (.inl rfl) hcancel)
  have hstatus : d₂.jobs.statusOf? plainJob.id = some .cancelled := by
    refine (hindexed.statusOf?_advance ..).trans ?_
    rw [Job.Archive.statusOf?_of_find? hfind, Option.map_some, if_pos rfl]
  have hnot : ¬ ∀ ms' d', Runs Moves d₂ ms' d' → (∀ j, .enqueue j ∈ ms' → j.id ≠ plainJob.id) →
      d'.jobs.statusOf? plainJob.id = some .cancelled := fun hkept =>
    (terminal_kept_iff hindexed rfl hrun hstatus rfl).2.1 hkept (List.mem_singleton_self _)
  simp only [not_forall] at hnot
  obtain ⟨ms', d', hrun', henq, hne⟩ := hnot
  refine ⟨d₀, d₂, _, ms', d', fun j hj => ?_, hrun, hstatus, hrun', henq, hne⟩
  rw [show d₀.jobs.toList = [plainJob] from hlist, List.mem_singleton] at hj
  rw [hj]
  rfl

end Daemon

end GpuCluster
