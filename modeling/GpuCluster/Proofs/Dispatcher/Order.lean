import GpuCluster.Proofs.Daemon.Terminal
import GpuCluster.Proofs.Job.Lanes

/-!
# The order of dispatching

* `Dispatcher.handOut` : what is done with the job that is handed out;
* `Dispatcher.Serves` : a registry and a store that answer, while more jobs may be enqueued;
* `Dispatcher.Step` : one call, `Dispatcher.Turn` : what it is seen to do;
* `Dispatcher.Roster` : three lists from which the oldest job of the highest list is taken;
* `Dispatcher.Tracks` : a dispatcher agrees with a roster; every step keeps this;
* `dispatch_in_order` : after any calls, the next job is the one that the roster has next.
-/

namespace GpuCluster.Dispatcher

open Job (Lanes)

variable {σ τ α : Type} {part : Lens σ Dispatcher} {registry : Executor.Registry (Executor σ)}
  {store : Job.Store σ} {now : Instant} {s s₀ t : σ} {d : Dispatcher} {j : Job} {rest : Job.Queue}

/-! ## One job -/

/-- Hand a job to the registry, count what became of it and record it. -/
def handOut (part : Lens σ Dispatcher) (registry : Executor.Registry (Executor σ))
    (store : Job.Store σ) (now : Instant) (j : Job) : Action σ (Option Outcome) := do
  let outcome := outcomeOf j (← Action.attempt (registry.execute j))
  Action.update part (·.count outcome)
  recordOutcome store now outcome
  return some outcome

theorem dispatchNext_of_pop (popped : (part.get s).queue.pop? = some (j, rest)) :
    dispatchNext part registry store now s = handOut part registry store now j
      (part.set { part.get s with queue := rest } s) := by
  have hread : Action.read part s = .ok (part.get s) s := rfl
  have hwrite : Action.write part { part.get s with queue := rest } s =
      .ok () (part.set { part.get s with queue := rest } s) := rfl
  rw [dispatchNext, Action.bind_of_ok hread]
  simp only [popped]
  rw [Action.bind_of_ok hwrite]
  rfl

theorem dispatchNext_of_empty (popped : (part.get s).queue.pop? = none) :
    dispatchNext part registry store now s = .ok none s := by
  have hread : Action.read part s = .ok (part.get s) s := rfl
  rw [dispatchNext, Action.bind_of_ok hread]
  simp only [popped]
  rfl

/-- The job that an outcome is about. -/
def Outcome.id : Outcome → JobId
  | started id => id
  | failed id _ => id
  | unsupported id _ => id

theorem id_outcomeOf (j : Job) (answer : Except Error Unit) : (outcomeOf j answer).id = j.id := by
  rcases outcomeOf_cases j answer with ⟨-, h⟩ | ⟨_, -, h⟩ | ⟨_, -, h⟩
  all_goals rw [h]; rfl

/-! ## Jobs that arrive meanwhile -/

def enqueueAll (d : Dispatcher) (arrived : List Job) : Dispatcher := arrived.foldl enqueue d

theorem queue_enqueueAll (d : Dispatcher) (js : List Job) :
    (d.enqueueAll js).queue = js.foldl Job.Queue.push d.queue := by
  induction js generalizing d with
  | nil => rfl
  | cons j js ih => exact ih (d.enqueue j)

theorem count_enqueueAll (d : Dispatcher) (js : List Job) (o : Outcome) :
    (d.enqueueAll js).count o = (d.count o).enqueueAll js := by
  induction js generalizing d with
  | nil => rfl
  | cons j js ih =>
    have hone : (d.enqueue j).count o = (d.count o).enqueue j := by cases o <;> rfl
    show ((d.enqueue j).enqueueAll js).count o = ((d.count o).enqueue j).enqueueAll js
    rw [ih, hone]

/-- The action answers or reports an error. Jobs may be enqueued before it does. -/
def Admits (part : Lens σ Dispatcher) (x : Action σ α) : Prop :=
  ∀ s, ∃ r t arrived, Action.attempt x s = .ok r t ∧ part.get t = (part.get s).enqueueAll arrived

theorem admits_zoom {other : Lens σ τ} {x : Action τ α}
    (hother : ∀ v s, part.get (other.set v s) = part.get s) (hx : x.Answers) :
    Admits part (x.zoom other) := by
  intro s
  obtain ⟨r, v, hr⟩ := hx.zoom other s
  exact ⟨r, other.set v s, [], hr, hother v s⟩

/-- Whatever job is handed out and whatever is recorded, there is an answer. -/
structure Serves (part : Lens σ Dispatcher) (registry : Executor.Registry (Executor σ))
    (store : Job.Store σ) : Prop where
  execute : ∀ j, Admits part (registry.execute j)
  record : ∀ now id status reason, Admits part (store.record now id status reason)

theorem Serves.recordOutcome (h : Serves part registry store) (now : Instant) (o : Outcome)
    (s : σ) : ∃ t arrived, recordOutcome store now o s = .ok () t ∧
      part.get t = (part.get s).enqueueAll arrived := by
  cases o with
  | started id =>
    obtain ⟨r, t, arrived, hr, ht⟩ := h.record now id .running none s
    exact ⟨t, arrived, Action.bind_of_ok hr, ht⟩
  | failed id reason =>
    obtain ⟨r, t, arrived, hr, ht⟩ := h.record now id .failed (some reason) s
    exact ⟨t, arrived, Action.bind_of_ok hr, ht⟩
  | unsupported id jobType => exact ⟨s, [], rfl, rfl⟩

/-- A job that is handed out is counted once, and the jobs that arrived meanwhile have joined. -/
theorem Serves.handOut (hp : part.Lawful) (h : Serves part registry store) (now : Instant) (j : Job)
    (s : σ) : ∃ answer t arrived,
      handOut part registry store now j s = .ok (some (outcomeOf j answer)) t ∧
      part.get t = ((part.get s).count (outcomeOf j answer)).enqueueAll arrived := by
  obtain ⟨answer, u, first, hexecute, hu⟩ := h.execute j s
  have hcounted := Action.update_apply part (·.count (outcomeOf j answer)) u
  obtain ⟨t, second, hrecord, ht⟩ := h.recordOutcome now (outcomeOf j answer)
    (part.set ((part.get u).count (outcomeOf j answer)) u)
  refine ⟨answer, t, first ++ second, ?_, ?_⟩
  · rw [Dispatcher.handOut, Action.bind_of_ok hexecute, Action.bind_of_ok hcounted,
      Action.bind_of_ok hrecord]
    rfl
  · rw [ht, hp.get_set, hu, count_enqueueAll]
    exact (List.foldl_append ..).symm

/-! ## Calls -/

/-- What a call is seen to do. -/
inductive Turn where
  | enqueue (j : Job)
  /-- The next job was handed out, if there was one, and others have arrived meanwhile. -/
  | dispatch (outcome : Option Outcome) (arrived : List Job)
  | elsewhere

namespace Turn

def enqueued : Turn → List Job
  | enqueue j => [j]
  | dispatch _ arrived => arrived
  | elsewhere => []

def outcome? : Turn → Option Outcome
  | dispatch outcome _ => outcome
  | _ => none

end Turn

/-- One call. Each dispatch may find other executors, another store and another time. -/
inductive Step (part : Lens σ Dispatcher) (s : σ) : Turn → σ → Prop
  | enqueue (j : Job) : Step part s (.enqueue j) (part.set ((part.get s).enqueue j) s)
  | dispatch {registry : Executor.Registry (Executor σ)} {store : Job.Store σ} {now : Instant}
      {outcome : Option Outcome} {t : σ} (serves : Serves part registry store)
      (dispatched : dispatchNext part registry store now s = .ok outcome t) :
      Step part s (.dispatch outcome ((part.get t).queue.since (part.get s).queue.arrivals)) t
  /-- The loop is taken or given up, or something happens that the dispatcher has no part in. -/
  | elsewhere {t : σ} (running : Bool)
      (kept : part.get t = { part.get s with isRunning := running }) : Step part s .elsewhere t

/-! ## The roster -/

/-- Waiting jobs in three lists, and the jobs that have been handed out. -/
structure Roster where
  lanes : Lanes
  handedOut : List Job

namespace Roster

def take (r : Roster) : Roster :=
  match r.lanes.pop? with
  | some (j, rest) => ⟨rest, r.handedOut ++ [j]⟩
  | none => r

def join (r : Roster) (js : List Job) : Roster := { r with lanes := js.foldl Lanes.push r.lanes }

def turn (r : Roster) : Turn → Roster
  | .enqueue j => r.join [j]
  | .dispatch _ arrived => r.take.join arrived
  | .elsewhere => r

end Roster

def roster (ts : List Turn) : Roster := ts.foldl Roster.turn ⟨.empty, []⟩

/-- A dispatcher agrees with a roster to which some jobs have been added. -/
structure Tracks (js : List Job) (r : Roster) (d : Dispatcher) : Prop where
  ordered : d.queue.Ordered
  lanes : d.queue.lanes = r.lanes
  kept : js.Perm (r.handedOut ++ d.queue.waiting)
  counted : r.handedOut.length = d.dispatched + d.failed + d.skipped

variable {js : List Job} {r : Roster}

theorem tracks_empty : Tracks [] (roster []) {} := ⟨Job.Queue.ordered_empty, rfl, .nil, rfl⟩

theorem Tracks.enqueue (h : Tracks js r d) (j : Job) :
    Tracks (js ++ [j]) (r.join [j]) (d.enqueue j) where
  ordered := h.ordered.push j
  lanes := by
    show (d.queue.push j).lanes = r.lanes.push j
    rw [Job.Queue.lanes_push, h.lanes]
  kept := by
    have hfirst : (js ++ [j]).Perm (j :: (r.handedOut ++ d.queue.waiting)) :=
      (List.perm_append_singleton j js).trans (h.kept.cons j)
    exact hfirst.trans List.perm_middle.symm
  counted := h.counted

theorem Tracks.join (h : Tracks js r d) (arrived : List Job) :
    Tracks (js ++ arrived) (r.join arrived) (d.enqueueAll arrived) := by
  induction arrived generalizing js r d with
  | nil =>
    rw [List.append_nil]
    exact h
  | cons j arrived ih =>
    have hall := ih (h.enqueue j)
    rw [List.append_assoc] at hall
    exact hall

/-- The dispatcher hands out the job that the roster has next. -/
theorem Tracks.pop? (h : Tracks js r d) :
    d.queue.pop?.map (fun p => (p.1, p.2.lanes)) = r.lanes.pop? := by
  rw [← h.lanes, Job.Queue.lanes_pop? h.ordered]

theorem Tracks.take_of_pop (h : Tracks js r d) (popped : d.queue.pop? = some (j, rest)) :
    r.take = ⟨rest.lanes, r.handedOut ++ [j]⟩ := by
  unfold Roster.take
  rw [← h.pop?, popped]
  rfl

theorem Tracks.take_of_empty (h : Tracks js r d) (popped : d.queue.pop? = none) : r.take = r := by
  unfold Roster.take
  rw [← h.pop?, popped]
  rfl

theorem Tracks.handOut (h : Tracks js r d) (popped : d.queue.pop? = some (j, rest)) (o : Outcome) :
    Tracks js r.take (({ d with queue := rest } : Dispatcher).count o) := by
  obtain ⟨hperm, -⟩ := Job.Queue.waiting_pop? h.ordered.numbered popped
  have hcount := h.counted
  rw [h.take_of_pop popped]
  refine ⟨?_, ?_, ?_, ?_⟩
  · rw [queue_count]
    exact h.ordered.pop popped
  · rw [queue_count]
  · rw [queue_count, List.append_assoc]
    exact h.kept.trans (hperm.append_left _)
  · show (r.handedOut ++ [j]).length = _
    rw [List.length_append, List.length_singleton]
    cases o <;> simp only [count] <;> omega

/-- A call does to the dispatcher what its turn does to the roster, and a dispatch is answered
about the very job that the roster hands out. -/
theorem Step.tracks (hp : part.Lawful) {turn : Turn} (hstep : Step part s turn t)
    (h : Tracks js r (part.get s)) :
    Tracks (js ++ turn.enqueued) (r.turn turn) (part.get t) ∧
      (r.turn turn).handedOut.map (·.id) =
        r.handedOut.map (·.id) ++ turn.outcome?.toList.map Outcome.id := by
  cases hstep with
  | enqueue j =>
    refine ⟨?_, (List.append_nil _).symm⟩
    rw [hp.get_set]
    exact h.enqueue j
  | elsewhere running kept =>
    refine ⟨?_, (List.append_nil _).symm⟩
    rw [Turn.enqueued, List.append_nil, kept]
    exact ⟨h.ordered, h.lanes, h.kept, h.counted⟩
  | @dispatch registry store now outcome _ serves dispatched =>
    cases popped : (part.get s).queue.pop? with
    | none =>
      have harrived := (Job.Queue.since_append h.ordered.lt []).2
      rw [dispatchNext_of_empty popped] at dispatched
      cases dispatched
      rw [List.foldl_nil] at harrived
      rw [harrived, Roster.turn, h.take_of_empty popped, Turn.enqueued, List.append_nil]
      exact ⟨h, (List.append_nil _).symm⟩
    | some next =>
      obtain ⟨j, rest⟩ := next
      obtain ⟨answer, u, arrived, hout, hu⟩ := serves.handOut hp now j
        (part.set { part.get s with queue := rest } s)
      rw [dispatchNext_of_pop popped, hout] at dispatched
      cases dispatched
      rw [hp.get_set] at hu
      have harrived : (part.get t).queue.since (part.get s).queue.arrivals = arrived := by
        rw [hu, queue_enqueueAll, queue_count, ← Job.Queue.arrivals_pop? popped]
        exact (Job.Queue.since_append (h.ordered.pop popped).lt arrived).2
      rw [harrived]
      refine ⟨?_, ?_⟩
      · rw [hu]
        exact (h.handOut popped _).join arrived
      · show r.take.handedOut.map (·.id) = _ ++ [(outcomeOf j answer).id]
        rw [h.take_of_pop popped, List.map_append, id_outcomeOf]
        rfl

/-! ## Any calls -/

/-- How the calls so far and the next call agree with the roster. -/
structure InOrder (part : Lens σ Dispatcher) (ts : List Turn) (s : σ) : Prop where
  peek : (part.get s).queue.peek? = (roster ts).lanes.pop?.map (·.1)
  depth : (part.get s).depth = (roster ts).lanes.size
  /-- Each enqueued occurrence has been handed out once, or it waits. -/
  kept : (ts.flatMap Turn.enqueued).Perm ((roster ts).handedOut ++ (part.get s).queue.waiting)
  answered : (ts.filterMap Turn.outcome?).map Outcome.id = (roster ts).handedOut.map (·.id)
  total : (ts.flatMap Turn.enqueued).length = (part.get s).depth + (part.get s).dispatched +
    (part.get s).failed + (part.get s).skipped
  idle : (roster ts).lanes.pop? = none → ∀ registry store now,
    dispatchNext part registry store now s = .ok none s
  next : ∀ j lanes, (roster ts).lanes.pop? = some (j, lanes) →
    ∃ d : Dispatcher, d.queue.lanes = lanes ∧ ∀ registry store now,
      dispatchNext part registry store now s =
        handOut part registry store now j (part.set d s) ∧
      (Serves part registry store → ∃ o t,
        dispatchNext part registry store now s = .ok (some o) t ∧ o.id = j.id)

variable {ts : List Turn}

theorem Tracks.inOrder (hp : part.Lawful)
    (h : Tracks (ts.flatMap Turn.enqueued) (roster ts) (part.get s))
    (hids : (ts.filterMap Turn.outcome?).map Outcome.id = (roster ts).handedOut.map (·.id)) :
    InOrder part ts s where
  peek := by
    rw [← h.pop?, Job.Queue.peek?_eq_map_pop?, Option.map_map]
    rfl
  depth := by
    rw [← h.lanes, Job.Queue.size_lanes h.ordered]
    rfl
  kept := h.kept
  answered := hids
  total := by
    have hlen := h.kept.length_eq
    have hdepth : (part.get s).queue.waiting.length = (part.get s).depth := List.length_map ..
    have hcount := h.counted
    rw [List.length_append] at hlen
    omega
  idle := by
    intro hnone registry store now
    refine dispatchNext_of_empty ?_
    rw [← h.pop?] at hnone
    exact Option.map_eq_none_iff.1 hnone
  next := by
    intro j lanes hnext
    rw [← h.pop?] at hnext
    obtain ⟨⟨k, rest⟩, popped, heq⟩ := Option.map_eq_some_iff.1 hnext
    cases heq
    refine ⟨{ part.get s with queue := rest }, rfl, fun registry store now => ?_⟩
    rw [dispatchNext_of_pop popped]
    refine ⟨rfl, fun serves => ?_⟩
    obtain ⟨answer, t, -, hout, -⟩ := serves.handOut hp now k
      (part.set { part.get s with queue := rest } s)
    exact ⟨outcomeOf k answer, t, hout, id_outcomeOf k answer⟩

/-- After any calls to a new dispatcher, jobs have been handed out as from three lists, and the
next call hands out the oldest job of the highest list that has one. -/
theorem dispatch_in_order (hp : part.Lawful) (h₀ : part.get s₀ = {})
    (hrun : Runs (Step part) s₀ ts s) : InOrder part ts s := by
  have hall := hrun.invariant
    (I := fun ts s => Tracks (ts.flatMap Turn.enqueued) (roster ts) (part.get s) ∧
      (ts.filterMap Turn.outcome?).map Outcome.id = (roster ts).handedOut.map (·.id))
    ⟨h₀ ▸ tracks_empty, rfl⟩ fun ts turn s t ⟨htracks, hids⟩ hstep => by
      obtain ⟨hnew, hlast⟩ := hstep.tracks hp htracks
      have hroster : roster (ts ++ [turn]) = (roster ts).turn turn := List.foldl_append ..
      rw [hroster, hlast, ← hids, List.flatMap_append, List.flatMap_singleton,
        List.filterMap_append, List.map_append]
      refine ⟨hnew, ?_⟩
      cases ho : turn.outcome? <;> simp [ho]
  exact hall.1.inOrder hp hall.2

/-! ## The dispatcher of a daemon -/

section Daemon

open GpuCluster.Daemon (Plan dispatcherPart jobStore acceptingPlan accepting plainJob)

variable {ε : Type}

theorem dispatcherPart_lawful : (dispatcherPart : Lens (Daemon ε) Dispatcher).Lawful :=
  ⟨fun _ _ => rfl, fun _ => rfl, fun _ _ _ => rfl⟩

theorem serves_of_answers (p : Plan ε) (h : ∀ j, (p.registry.execute j).Answers) :
    Serves dispatcherPart p.executors jobStore where
  execute j := by
    rw [p.execute_eq]
    exact admits_zoom (fun _ _ => rfl) (h j)
  record now id status reason :=
    admits_zoom (fun _ _ => rfl) (Job.Archive.record_answers now id status reason)

theorem execute_acceptingPlan (jobType : String) (j : Job) :
    ((acceptingPlan jobType : Plan ε).registry.execute j) =
      if j.jobType = jobType then pure () else Action.fail (.executorNotFound j.jobType) := by
  split
  next ht =>
    rw [Executor.Registry.execute_of_find? (x := accepting)]
    · rfl
    · rw [acceptingPlan, Executor.Registry.find?_register, if_pos ht.symm]
  next ht =>
    rw [Executor.Registry.execute_of_none]
    rw [acceptingPlan, Executor.Registry.find?_register, if_neg (Ne.symm ht)]
    rfl

def urgentJob : Job := { id := ⟨8#128⟩, priorityClass := "high", createdAt := ⟨1, 0⟩ }

/-- An urgent job overtakes a plain one that came first. -/
theorem dispatch_in_order_overtaken : ∃ (ts : List Turn) (s : Daemon Unit),
    Runs (Step dispatcherPart) { executors := () } ts s ∧ InOrder dispatcherPart ts s ∧
    (roster ts).handedOut = [urgentJob] ∧ (roster ts).lanes.pop?.map (·.1) = some plainJob := by
  let d₂ : Daemon Unit :=
    { executors := (), dispatcher := (enqueue (enqueue {} plainJob) urgentJob) }
  have hserves : Serves dispatcherPart (acceptingPlan "batch" : Plan Unit).executors jobStore := by
    refine serves_of_answers _ fun j => ?_
    rw [execute_acceptingPlan]
    split
    · exact Action.answers_pure ()
    · exact Action.answers_fail _
  have hlaunch : Action.attempt ((acceptingPlan "batch" : Plan Unit).registry.execute urgentJob)
      d₂.executors = .ok (.ok ()) () := by
    rw [execute_acceptingPlan]
    rfl
  have hdispatched := Daemon.dispatchNext_of_pop (d := d₂) default rfl hlaunch
  have hrun : Runs (Step dispatcherPart) { executors := () } _ _ :=
    ((Runs.single (.enqueue plainJob)).snoc (.enqueue urgentJob)).snoc
      (.dispatch hserves hdispatched)
  exact ⟨_, _, hrun, dispatch_in_order dispatcherPart_lawful rfl hrun, rfl, rfl⟩

end Daemon

end GpuCluster.Dispatcher
