import GpuCluster.Proofs.Runs
import GpuCluster.Proofs.Telemetry.Agenda
import GpuCluster.Proofs.Telemetry.CleanUp
import GpuCluster.Proofs.Telemetry.Sampling
import GpuCluster.Proofs.Telemetry.Summaries

/-!
# Telemetry keeps to its schedule

Stages take no time here, and telemetry is called off at some time. If the clock reaches the first
ticks of both timers, then all stages that are due before are gone through, in order, and each is
reported once unless it was called off, whether it fails or not. Only a stage that breaks off ends
the run, and nothing is gone through after it. If the clock does not reach them, the run breaks off
after the first turn.

* `Leaves`, `Leaves.stageAction` : what all collaborators keep is kept by every stage;
* `Prompt` : collaborators that take no time, and a receiver that keeps what it is sent;
* `Performs`, `Performed.event?` : a stage gone through, with its result, and what it reports;
* `Prompt.sent_runs` : what is sent along some stages;
* `GoesThrough` : an action that goes through some stages, up to one that breaks off;
  `GoesThrough.bind` : two actions of which the second goes on where the first one has ended;
* `Prompt.loop_goesThrough` : a loop goes through the turns before it is called off, and asks at the
  next one;
* `follow`, `run_eq_follow` : a run along the ticks of both timers, in any order they may come in;
* `runs_on_schedule` : what a run does.
-/

namespace GpuCluster.Telemetry

variable {σ : Type} {t : Telemetry σ} {s : Schedule} {elapsed : Lens σ Nat}
  {report : Event → Action σ Unit} {cancel horizon uptime : Nat} {sent : σ → List (Nat × Event)}
  {u v r : σ}

/-! ## Collaborators -/

/-- No collaborator loses what `I` says of a state. -/
structure Leaves (t : Telemetry σ) (I : σ → Prop) : Prop where
  withStatus : ∀ statuses, Action.Keeps I (t.jobs.withStatus statuses)
  insert : ∀ batch, Action.Keeps I (t.usage.insert batch)
  ofJob : ∀ id, Action.Keeps I (t.usage.ofJob id)
  summary? : ∀ id, Action.Keeps I (t.usage.summary? id)
  putSummary : ∀ summary, Action.Keeps I (t.usage.putSummary summary)
  dropBefore : ∀ cutoff, Action.Keeps I (t.usage.dropBefore cutoff)
  backend : ∀ backend ∈ t.backend, ∀ query time, Action.Keeps I (backend query time)
  cluster : ∀ cluster ∈ t.cluster, ∀ name selector, Action.Keeps I (cluster name selector)
  clock : Action.Keeps I t.clock
  calledOff : Action.Keeps I t.calledOff

namespace Leaves

variable {I : σ → Prop} (h : t.Leaves I)
include h

theorem collect : Action.Keeps I t.collect := by
  unfold Telemetry.collect
  cases hbackend : t.backend with
  | none => exact Action.keeps_fail _
  | some backend =>
    cases hcluster : t.cluster with
    | none => exact Action.keeps_fail _
    | some cluster =>
      refine Action.keeps_bind (h.withStatus _) fun running => ?_
      split
      · exact Action.keeps_pure _
      refine Action.keeps_bind ?_ fun batch => ?_
      · exact keeps_sampleJobs h.calledOff (h.backend _ hbackend) h.clock (h.cluster _ hcluster) _
      · exact Action.keeps_bind (h.insert batch) fun _ => Action.keeps_pure _

theorem summarizeJob (id : JobId) : Action.Keeps I (t.summarizeJob id) := by
  refine Action.keeps_bind (h.summary? id) fun summary => ?_
  split
  · exact Action.keeps_pure _
  refine Action.keeps_bind (Action.keeps_attempt (h.ofJob id)) fun found => ?_
  split
  · exact Action.keeps_pure _
  refine Action.keeps_bind h.clock fun now => ?_
  refine Action.keeps_bind (Action.keeps_ofChecked _) fun summary => ?_
  split
  · exact Action.keeps_pure _
  · exact Action.keeps_bind (h.putSummary _) fun _ => Action.keeps_pure _

theorem summarize : Action.Keeps I t.summarize :=
  Action.keeps_bind (h.withStatus _) fun _ =>
    keeps_summarizeJobs h.calledOff fun j _ => h.summarizeJob j.id

theorem cleanUp (retention : Duration) : Action.Keeps I (t.cleanUp retention) := by
  refine Action.keeps_bind (Action.keeps_ofExcept _) fun age => ?_
  refine Action.keeps_bind h.clock fun now => ?_
  exact Action.keeps_bind (Action.keeps_ofChecked _) fun cutoff => h.dropBefore cutoff

/-- What all collaborators keep is kept by every stage. -/
theorem stageAction (s : Schedule) (stage : Stage) : Action.Keeps I (t.stageAction s stage) := by
  cases stage with
  | collect => exact h.collect
  | summarize => exact h.summarize
  | cleanUp => exact h.cleanUp s.retention

end Leaves

/-- Collaborators take no time and send nothing, telemetry is called off at a fixed time, and
whatever is reported is received at once. -/
structure Prompt (t : Telemetry σ) (elapsed : Lens σ Nat) (report : Event → Action σ Unit)
    (cancel : Nat) (sent : σ → List (Nat × Event)) : Prop where
  lawful : elapsed.Lawful
  sent_set : ∀ time u, sent (elapsed.set time u) = sent u
  leaves : ∀ time events, t.Leaves fun u => elapsed.get u = time ∧ sent u = events
  calledOff : ∀ u, t.calledOff u = .ok (decide (cancel ≤ elapsed.get u)) u
  report : ∀ e u, ∃ v, report e u = .ok () v ∧ elapsed.get v = elapsed.get u ∧
    sent v = sent u ++ [(elapsed.get u, e)]

/-! ## Stages gone through -/

/-- A stage that has been gone through. -/
structure Performed where
  time : Nat
  stage : Stage
  result : Except Error Nat

namespace Performed

def slot (p : Performed) : Nat × Stage := (p.time, p.stage)

/-- What is sent of the stage. -/
def event? (p : Performed) : Option (Nat × Event) := (Event.of? p.stage p.result).map (p.time, ·)

theorem event?_eq_none_iff {p : Performed} :
    p.event? = none ↔ ∃ detail, p.result = .error (.cancelled detail) := by
  obtain ⟨time, stage, result⟩ := p
  cases result with
  | ok n => simp [event?, Event.of?]
  | error e => cases e <;> simp [event?, Event.of?]

end Performed

/-- The stage is gone through at its time and reported. -/
def Performs (t : Telemetry σ) (s : Schedule) (elapsed : Lens σ Nat)
    (report : Event → Action σ Unit) (u : σ) (p : Performed) (v : σ) : Prop :=
  ∃ w, Action.attempt (t.stageAction s p.stage) (elapsed.set p.time u) = .ok p.result w ∧
    match Event.of? p.stage p.result with
    | some e => report e w = .ok () v
    | none => v = w

namespace Prompt

variable (h : t.Prompt elapsed report cancel sent)
include h

theorem attempt_keeps {stage : Stage} {time : Nat} {result : Except Error Nat}
    (hrun : Action.attempt (t.stageAction s stage) (elapsed.set time u) = .ok result v) :
    elapsed.get v = time ∧ sent v = sent u :=
  (Action.keeps_attempt ((h.leaves time (sent u)).stageAction s stage)).of_ok
    ⟨h.lawful.get_set time u, h.sent_set time u⟩ hrun

theorem fault_keeps {stage : Stage} {time : Nat} {f : Fault}
    (hrun : t.stageAction s stage (elapsed.set time u) = .error (.fault f) v) :
    sent v = sent u := by
  have hkept := (h.leaves time (sent u)).stageAction s stage _
    ⟨h.lawful.get_set time u, h.sent_set time u⟩
  rw [Action.after_of_error hrun] at hkept
  exact hkept.2

/-- A stage is reported once, with its time, unless it was called off. -/
theorem sent_performs {p : Performed} (hstep : t.Performs s elapsed report u p v) :
    sent v = sent u ++ p.event?.toList := by
  obtain ⟨w, hrun, hreport⟩ := hstep
  obtain ⟨htime, hsent⟩ := h.attempt_keeps hrun
  unfold Performed.event?
  cases hevent : Event.of? p.stage p.result with
  | none =>
    rw [hevent] at hreport
    simp [hreport, hsent]
  | some e =>
    rw [hevent] at hreport
    obtain ⟨v', hv', -, hmore⟩ := h.report e w
    rw [hreport] at hv'
    cases hv'
    rw [hmore, htime, hsent]
    rfl

theorem sent_runs {done : List Performed} (hrun : Runs (t.Performs s elapsed report) u done r) :
    sent r = sent u ++ done.filterMap Performed.event? := by
  refine hrun.invariant (I := fun done v => sent v = sent u ++ done.filterMap Performed.event?)
    (List.append_nil _).symm fun done p v w hv hstep => ?_
  have hone : [p].filterMap Performed.event? = p.event?.toList := by
    rw [List.filterMap_cons, List.filterMap_nil]
    cases p.event? <;> rfl
  rw [h.sent_performs hstep, hv, List.filterMap_append, hone, List.append_assoc]

end Prompt

/-! ## Actions that go through stages -/

/-- The action goes through all the stages and ends as `ends` says of the state that they leave, or
it breaks off with the first of them that does. -/
def GoesThrough (t : Telemetry σ) (s : Schedule) (elapsed : Lens σ Nat)
    (report : Event → Action σ Unit) (slots : List (Nat × Stage))
    (ends : σ → EStateM.Result Failure σ Unit → Prop) (x : Action σ Unit) (u : σ) : Prop :=
  ∃ done r, Runs (t.Performs s elapsed report) u done r ∧
    (slots = done.map Performed.slot ∧ ends r (x u) ∨
      ∃ time stage rest f v, slots = done.map Performed.slot ++ (time, stage) :: rest ∧
        t.stageAction s stage (elapsed.set time r) = .error (.fault f) v ∧
        x u = .error (.fault f) v)

/-- It ends at this time, and does nothing else. -/
def EndsAt (elapsed : Lens σ Nat) (time : Nat) (r : σ) (answer : EStateM.Result Failure σ Unit) :
    Prop :=
  answer = .ok () r ∧ elapsed.get r = time

/-- It ends at some time, and does nothing else. -/
def Ends (elapsed : Lens σ Nat) (r : σ) (answer : EStateM.Result Failure σ Unit) : Prop :=
  ∃ time, answer = .ok () (elapsed.set time r)

namespace GoesThrough

variable {slots later : List (Nat × Stage)} {ends ends' : σ → EStateM.Result Failure σ Unit → Prop}
  {x y : Action σ Unit} {time : Nat}

theorem congr (h : t.GoesThrough s elapsed report slots ends x u) (hxy : y u = x u) :
    t.GoesThrough s elapsed report slots ends y u := by
  unfold GoesThrough at h ⊢
  rw [hxy]
  exact h

theorem imp (h : t.GoesThrough s elapsed report slots ends x u)
    (hends : ∀ r answer, ends r answer → ends' r answer) :
    t.GoesThrough s elapsed report slots ends' x u := by
  obtain ⟨done, r, hruns, ⟨hslots, hr⟩ | hfault⟩ := h
  · exact ⟨done, r, hruns, .inl ⟨hslots, hends r _ hr⟩⟩
  · exact ⟨done, r, hruns, .inr hfault⟩

theorem bind (hx : t.GoesThrough s elapsed report slots (EndsAt elapsed time) x u)
    (hy : ∀ r, elapsed.get r = time → t.GoesThrough s elapsed report later ends y r) :
    t.GoesThrough s elapsed report (slots ++ later) ends (do x; y) u := by
  obtain ⟨done, r, hruns, ⟨rfl, hok, hr⟩ | ⟨time, stage, rest, f, v, rfl, hstage, hfault⟩⟩ := hx
  · have hthen : (do x; y) u = y r := Action.bind_of_ok hok
    obtain ⟨done', r', hruns', ⟨rfl, hends⟩ | ⟨time, stage, rest, f, v, rfl, hstage, hfault⟩⟩ :=
      hy r hr
    · refine ⟨done ++ done', r', hruns.append hruns', .inl ⟨List.map_append.symm, ?_⟩⟩
      rwa [hthen]
    · refine ⟨done ++ done', r', hruns.append hruns',
        .inr ⟨time, stage, rest, f, v, ?_, hstage, hthen.trans hfault⟩⟩
      rw [List.map_append, List.append_assoc]
  · refine ⟨done, r, hruns, .inr ⟨time, stage, rest ++ later, f, v, ?_, hstage, ?_⟩⟩
    · rw [List.append_assoc, List.cons_append]
    · exact Action.bind_of_error hfault

end GoesThrough

namespace Prompt

variable (h : t.Prompt elapsed report cancel sent) (s)
include h

/-- A stage is gone through whatever its result, unless it breaks off. -/
theorem perform_goesThrough (stage : Stage) (time : Nat) (u : σ) :
    t.GoesThrough s elapsed report [(time, stage)] (EndsAt elapsed time)
      (do Action.write elapsed time; t.perform s report stage) u := by
  have hstart : (do Action.write elapsed time; t.perform s report stage) u =
      t.perform s report stage (elapsed.set time u) := Action.bind_of_ok rfl
  rcases Action.attempt_or_fault (t.stageAction s stage) (elapsed.set time u) with
    ⟨result, w, hrun⟩ | ⟨f, v, hrun⟩
  · obtain ⟨htime, -⟩ := h.attempt_keeps hrun
    have hgoes : ∃ v, t.Performs s elapsed report u ⟨time, stage, result⟩ v ∧
        t.perform s report stage (elapsed.set time u) = .ok () v ∧ elapsed.get v = time := by
      unfold perform
      rw [Action.bind_of_ok hrun]
      cases hevent : Event.of? stage result with
      | none =>
        refine ⟨w, ⟨w, hrun, ?_⟩, rfl, htime⟩
        simp only [hevent]
      | some e =>
        obtain ⟨v, hv, hsame, -⟩ := h.report e w
        refine ⟨v, ⟨w, hrun, ?_⟩, hv, hsame.trans htime⟩
        simp only [hevent]
        exact hv
    obtain ⟨v, hstep, hok, hend⟩ := hgoes
    exact ⟨_, v, .single hstep, .inl ⟨rfl, hstart.trans hok, hend⟩⟩
  · refine ⟨[], u, .nil, .inr ⟨time, stage, [], f, v, rfl, hrun, hstart.trans ?_⟩⟩
    exact Action.bind_of_error (Action.attempt_of_fault hrun)

theorem takeTurn_goesThrough (turn : Turn) (time : Nat) (u : σ) :
    t.GoesThrough s elapsed report (turn.stages.map (time, ·)) (EndsAt elapsed time)
      (do Action.write elapsed time; t.takeTurn s report turn) u := by
  cases turn with
  | cleanUp => exact h.perform_goesThrough s .cleanUp time u
  | sample =>
    have hsecond : ∀ r, elapsed.get r = time →
        t.GoesThrough s elapsed report [(time, .summarize)] (EndsAt elapsed time)
          (t.perform s report .summarize) r := fun r hr =>
      (h.perform_goesThrough s .summarize time r).congr
        (Action.write_bind h.lawful _ hr).symm
    refine ((h.perform_goesThrough s .collect time u).bind hsecond).congr ?_
    rw [bind_assoc]
    rfl

/-- The turns before telemetry is called off are all taken, and none of the others: when the time of
the first of these has come, telemetry has been called off. -/
theorem loop_goesThrough {turns : List (Nat × Turn)}
    (hordered : turns.Pairwise fun x y => x.1 ≤ y.1) (u : σ) :
    t.GoesThrough s elapsed report (slots (turns.filter (·.1 < cancel))) (Ends elapsed)
      (Timetable.run elapsed t.calledOff (t.takeTurn s report) turns) u := by
  induction turns generalizing u with
  | nil => exact ⟨[], u, .nil, .inl ⟨rfl, elapsed.get u, by rw [h.lawful.set_get]; rfl⟩⟩
  | cons first rest ih =>
    obtain ⟨time, turn⟩ := first
    obtain ⟨hfirst, hrest⟩ := List.pairwise_cons.1 hordered
    have hoff := h.calledOff (elapsed.set time u)
    rw [h.lawful.get_set] at hoff
    by_cases htime : time < cancel
    · have htaken : ((time, turn) :: rest).filter (·.1 < cancel) =
          (time, turn) :: rest.filter (·.1 < cancel) :=
        List.filter_cons_of_pos (decide_eq_true htime)
      rw [htaken]
      rw [decide_eq_false (Nat.not_le.2 htime)] at hoff
      refine ((h.takeTurn_goesThrough s turn time u).bind fun r _ => ih hrest r).congr ?_
      rw [bind_assoc]
      refine (Action.bind_of_ok rfl).trans ((Action.bind_of_ok hoff).trans ?_)
      exact (Action.bind_of_ok rfl).symm
    · have hnone : ((time, turn) :: rest).filter (·.1 < cancel) = [] := by
        refine List.filter_eq_nil_iff.2 fun x hx => ?_
        rw [decide_eq_true_iff, Nat.not_lt]
        obtain rfl | hx := List.mem_cons.1 hx
        · exact Nat.not_lt.1 htime
        · exact Nat.le_trans (Nat.not_lt.1 htime) (hfirst x hx)
      rw [hnone]
      rw [decide_eq_true (Nat.not_lt.1 htime)] at hoff
      exact ⟨[], u, .nil,
        .inl ⟨rfl, time, (Action.bind_of_ok rfl).trans (Action.bind_of_ok hoff)⟩⟩

end Prompt

/-! ## Runs -/

/-- Set the timers, and run telemetry along some of their ticks. -/
def followTicks (t : Telemetry σ) (s : Schedule) (uptime : Nat) (elapsed : Lens σ Nat)
    (report : Event → Action σ Unit) (turns : List (Nat × Turn)) : Action σ Unit := do
  Action.ofChecked (s.check uptime)
  Timetable.run elapsed t.calledOff (t.takeTurn s report) turns

/-- Run telemetry along some ticks of its timers, after the first turn. -/
def follow (t : Telemetry σ) (s : Schedule) (uptime : Nat) (elapsed : Lens σ Nat)
    (report : Event → Action σ Unit) (turns : List (Nat × Turn)) : Action σ Unit := do
  t.takeTurn s report .sample
  t.followTicks s uptime elapsed report turns

theorem run_eq_follow (horizon : Nat) : t.run s uptime elapsed report horizon =
    t.follow s uptime elapsed report (s.timetable horizon) := rfl

namespace Prompt

variable (h : t.Prompt elapsed report cancel sent) {turns : List (Nat × Turn)}
include h

/-- What comes after the first turn: if the clock reaches the first ticks, all turns before
telemetry is called off, and else nothing. -/
theorem rest_goesThrough (hcollect : s.collectInterval.toNanos ≠ 0)
    (hclean : s.cleanUpInterval.toNanos ≠ 0) (hordered : turns.Pairwise fun x y => x.1 ≤ y.1)
    (uptime : Nat) (r : σ) :
    (s.Reaches uptime → t.GoesThrough s elapsed report (slots (turns.filter (·.1 < cancel)))
      (Ends elapsed) (t.followTicks s uptime elapsed report turns) r) ∧
    (¬s.Reaches uptime → t.GoesThrough s elapsed report []
      (fun r answer => answer = .error (.fault .tickOutOfRange) r)
      (t.followTicks s uptime elapsed report turns) r) := by
  obtain ⟨hset, hunset⟩ := Schedule.check_eq hcollect hclean uptime
  refine ⟨fun hreach => ?_, fun hreach => ⟨[], r, .nil, .inl ⟨rfl, ?_⟩⟩⟩
  · refine (h.loop_goesThrough s hordered r).congr ?_
    rw [followTicks, hset hreach]
    rfl
  · rw [followTicks, hunset hreach]
    rfl

/-- A run goes through the first turn and what comes after it. -/
theorem follow_goesThrough (hcollect : s.collectInterval.toNanos ≠ 0)
    (hclean : s.cleanUpInterval.toNanos ≠ 0) (hturns : s.Allows horizon turns)
    (hcancel : cancel ≤ horizon) (hu : elapsed.get u = 0) (uptime : Nat) : ∃ slots,
      (s.Reaches uptime → s.Agenda cancel slots) ∧
      (¬s.Reaches uptime → slots = [(0, .collect), (0, .summarize)]) ∧
      t.GoesThrough s elapsed report slots
        (fun r answer => (s.Reaches uptime → Ends elapsed r answer) ∧
          (¬s.Reaches uptime → answer = .error (.fault .tickOutOfRange) r))
        (t.follow s uptime elapsed report turns) u := by
  have hstart : t.follow s uptime elapsed report turns u =
      (do (do Action.write elapsed 0; t.takeTurn s report .sample)
          t.followTicks s uptime elapsed report turns) u := by
    rw [bind_assoc, Action.write_bind h.lawful _ hu]
    rfl
  have hfirst := h.takeTurn_goesThrough s .sample 0 u
  have hrest := h.rest_goesThrough hcollect hclean hturns.ordered uptime
  by_cases hreach : s.Reaches uptime
  · refine ⟨_, fun _ => (hturns.before hcancel).agenda, fun hno => absurd hreach hno, ?_⟩
    refine ((hfirst.bind fun r _ => (hrest r).1 hreach).congr hstart).imp fun r answer hends => ?_
    exact ⟨fun _ => hends, fun hno => absurd hreach hno⟩
  · refine ⟨_, fun hyes => absurd hyes hreach, fun _ => rfl, ?_⟩
    refine ((hfirst.bind fun r _ => (hrest r).2 hreach).congr hstart).imp fun r answer hends => ?_
    exact ⟨fun hyes => absurd hyes hreach, fun _ => hends⟩

end Prompt

/-- Cleaning up with a retention that overreaches is never gone through. -/
theorem not_cleanUp_of_overreaches {n : Nat} {done : List Performed}
    (hn : s.retention = .ofSeconds n)
    (hclock : ∀ u, ∃ now v, t.clock u = .ok now v ∧ Overreaches n now)
    (hruns : Runs (t.Performs s elapsed report) u done r) : ∀ p ∈ done, p.stage ≠ .cleanUp := by
  refine hruns.invariant (I := fun done _ => ∀ p ∈ done, p.stage ≠ .cleanUp)
    (fun p hp => absurd hp List.not_mem_nil) fun done p v w hdone hstep q hq => ?_
  rcases List.mem_append.1 hq with hq | hq
  · exact hdone q hq
  obtain rfl := List.mem_singleton.1 hq
  intro hclean
  obtain ⟨w, hrun, -⟩ := hstep
  obtain ⟨now, v', hnow, hover⟩ := hclock (elapsed.set q.time v)
  have hfault : t.stageAction s .cleanUp (elapsed.set q.time v) =
      .error (.fault .dateOutOfRange) v' := by
    rw [stageAction, hn, cleanUp_of_le hover.1 hnow, if_pos hover]
    rfl
  rw [hclean, Action.attempt_of_fault hfault] at hrun
  cases hrun

/-- If the clock reaches the first ticks of both timers, a run goes through exactly the stages that
are due before it is called off, in order: the first collection and its summaries at once, then both
at every multiple of one interval and cleaning up at every multiple of the other. What it sends is,
with its time, one event for each stage gone through but those that were called off. A stage that
fails is reported like any other, and the run goes on. Only if a stage breaks off, as cleaning up
does with a retention that overreaches, the run ends there, and what is due later is not done. This
holds however far the ticks of the timetable go on after the end, and of every order in which ticks
at the same time may come. If the clock does not reach the first tick of a timer, the first
collection and its summaries are all that a run goes through. -/
theorem runs_on_schedule (h : t.Prompt elapsed report cancel sent)
    (hcollect : s.collectInterval.toNanos ≠ 0) (hclean : s.cleanUpInterval.toNanos ≠ 0)
    (hu : elapsed.get u = 0) (hcancel : cancel ≤ horizon) (uptime : Nat) :
    t.run s uptime elapsed report horizon =
      t.follow s uptime elapsed report (s.timetable horizon) ∧
    s.Allows horizon (s.timetable horizon) ∧
    ∀ turns, s.Allows horizon turns → ∃ slots done r,
      (s.Reaches uptime → s.Agenda cancel slots) ∧
      (¬s.Reaches uptime → slots = [(0, .collect), (0, .summarize)]) ∧
      Runs (t.Performs s elapsed report) u done r ∧
      sent ((t.follow s uptime elapsed report turns).after u) =
        sent u ++ done.filterMap Performed.event? ∧
      (∀ p ∈ done, p.event? = none ↔ ∃ detail, p.result = .error (.cancelled detail)) ∧
      (∀ n, s.retention = .ofSeconds n →
        (∀ u, ∃ now v, t.clock u = .ok now v ∧ Overreaches n now) →
        ∀ p ∈ done, p.stage ≠ .cleanUp) ∧
      (done.map Performed.slot = slots ∧
          (s.Reaches uptime →
            ∃ time, t.follow s uptime elapsed report turns u = .ok () (elapsed.set time r)) ∧
          (¬s.Reaches uptime →
            t.follow s uptime elapsed report turns u = .error (.fault .tickOutOfRange) r) ∨
        ∃ time stage rest f v, done.map Performed.slot ++ (time, stage) :: rest = slots ∧
          t.stageAction s stage (elapsed.set time r) = .error (.fault f) v ∧
          t.follow s uptime elapsed report turns u = .error (.fault f) v) := by
  refine ⟨run_eq_follow horizon, s.allows_timetable hcollect hclean horizon, fun turns hturns => ?_⟩
  obtain ⟨slots, hagenda, hfirst, done, r, hruns, hends⟩ :=
    h.follow_goesThrough hcollect hclean hturns hcancel hu uptime
  refine ⟨slots, done, r, hagenda, hfirst, hruns, ?_, fun _ _ => Performed.event?_eq_none_iff,
    fun n hn hclock => not_cleanUp_of_overreaches hn hclock hruns, ?_⟩
  · rw [← h.sent_runs hruns]
    obtain ⟨-, hends, hfaults⟩ | ⟨time, stage, rest, f, v, -, hstage, hfault⟩ := hends
    · by_cases hreach : s.Reaches uptime
      · obtain ⟨time, hok⟩ := hends hreach
        rw [Action.after_of_ok hok, h.sent_set]
      · rw [Action.after_of_error (hfaults hreach)]
    · rw [Action.after_of_error hfault, h.fault_keeps hstage]
  · obtain ⟨hslots, hends⟩ | ⟨time, stage, rest, f, v, hslots, hstage, hfault⟩ := hends
    · exact .inl ⟨hslots.symm, hends⟩
    · exact .inr ⟨time, stage, rest, f, v, hslots.symm, hstage, hfault⟩

/-- A place for telemetry without a backend, with the events that it has sent. -/
structure Desk where
  jobs : Job.Archive := .empty
  usage : Usage.Tables := {}
  elapsed : Nat := 0
  sent : List (Nat × Event) := []

namespace Desk

def jobsPart : Lens Desk Job.Archive := ⟨Desk.jobs, fun a d => { d with jobs := a }⟩

def usagePart : Lens Desk Usage.Tables := ⟨Desk.usage, fun u d => { d with usage := u }⟩

def clock : Lens Desk Nat := ⟨Desk.elapsed, fun n d => { d with elapsed := n }⟩

/-- Telemetry that is called off at a time. -/
def telemetry (cancel : Nat) : Telemetry Desk where
  names := {}
  jobs := Job.Store.archive.within jobsPart
  usage := Usage.Store.tables.within usagePart
  backend := none
  cluster := none
  clock := return ⟨0, 0⟩
  calledOff d := .ok (decide (cancel ≤ d.elapsed)) d

def receive (e : Event) : Action Desk Unit := fun d =>
  .ok () { d with sent := d.sent ++ [(d.elapsed, e)] }

theorem keeps_usage {α : Type} (x : Action Usage.Tables α) {time : Nat}
    {events : List (Nat × Event)} :
    Action.Keeps (fun d => clock.get d = time ∧ d.sent = events) (x.zoom usagePart) :=
  Action.keeps_zoom fun _ _ hd => hd

theorem telemetry_prompt (cancel : Nat) :
    (telemetry cancel).Prompt clock receive cancel Desk.sent where
  lawful := ⟨fun _ _ => rfl, fun _ => rfl, fun _ _ _ => rfl⟩
  sent_set _ _ := rfl
  leaves _ _ :=
    { withStatus := fun statuses =>
        Action.keeps_zoom (x := Job.Store.archive.withStatus statuses) fun _ _ hd => hd
      insert := fun batch => keeps_usage (Usage.Store.tables.insert batch)
      ofJob := fun id => keeps_usage (Usage.Store.tables.ofJob id)
      summary? := fun id => keeps_usage (Usage.Store.tables.summary? id)
      putSummary := fun summary => keeps_usage (Usage.Store.tables.putSummary summary)
      dropBefore := fun cutoff => keeps_usage (Usage.Store.tables.dropBefore cutoff)
      backend := nofun
      cluster := nofun
      clock := Action.keeps_pure _
      calledOff := fun _ hd => hd }
  calledOff _ := rfl
  report _ _ := ⟨_, rfl, rfl, rfl⟩

/-- The first turn fails to collect, and there is no job to be summarized. -/
theorem first_turn (cancel : Nat) (s : Schedule) : ∃ d,
    (telemetry cancel).takeTurn s receive .sample {} = .ok () d ∧
      d.sent = [(0, .failed .collect Error.noBackend.message), (0, .summarized 0)] :=
  ⟨_, rfl, rfl⟩

end Desk

/-- Samples every three seconds and cleaning up every two, with the longest age as retention: the
run breaks off. With the longest interval it does so after the first turn. -/
theorem runs_on_schedule_longest :
    (∃ f d, (Desk.telemetry 5500000000).run
      ⟨.ofSeconds 3, .ofSeconds 2, .ofSeconds 9223372036854775⟩ 0 Desk.clock Desk.receive
      60000000000 {} = .error (.fault f) d) ∧
    ∃ d, (Desk.telemetry 5500000000).run
      ⟨.ofSeconds 18446744073709551615, .ofSeconds 2, .ofSeconds 60⟩ 0 Desk.clock Desk.receive
      60000000000 {} = .error (.fault .tickOutOfRange) d ∧
      d.sent = [(0, .failed .collect Error.noBackend.message), (0, .summarized 0)] := by
  have hprompt := Desk.telemetry_prompt 5500000000
  constructor
  · have hreach : Schedule.Reaches
        ⟨.ofSeconds 3, .ofSeconds 2, .ofSeconds 9223372036854775⟩ 0 :=
      Schedule.reaches_iff.2 (by decide)
    have hover : Overreaches 9223372036854775 ⟨0, 0⟩ := by decide
    obtain ⟨hrun, hallows, hfollow⟩ := runs_on_schedule hprompt
      (s := ⟨.ofSeconds 3, .ofSeconds 2, .ofSeconds 9223372036854775⟩) (u := {})
      (by decide) (by decide) rfl (by decide : 5500000000 ≤ 60000000000) 0
    obtain ⟨slots, done, r, hagenda, -, -, -, -, hnever, hends⟩ := hfollow _ hallows
    obtain ⟨rfl, -⟩ | ⟨-, -, -, f, d, -, -, hfault⟩ := hends
    · have hdue := ((hagenda hreach).mem_iff 2000000000 .cleanUp).2
        ⟨by decide, by decide, by decide⟩
      obtain ⟨p, hp, hslot⟩ := List.mem_map.1 hdue
      exact absurd (congrArg Prod.snd hslot)
        (hnever _ rfl (fun d => ⟨_, d, rfl, hover⟩) p hp)
    · exact ⟨f, d, hrun ▸ hfault⟩
  · obtain ⟨d, hok, hsent⟩ := Desk.first_turn 5500000000
      ⟨.ofSeconds 18446744073709551615, .ofSeconds 2, .ofSeconds 60⟩
    have hset := (Schedule.check_eq (by decide) (by decide) 0
      (s := ⟨.ofSeconds 18446744073709551615, .ofSeconds 2, .ofSeconds 60⟩)).2
      fun hreach => absurd (hreach .sample) (by decide)
    refine ⟨d, (Action.bind_of_ok hok).trans ?_, hsent⟩
    rw [hset]
    rfl

end GpuCluster.Telemetry
