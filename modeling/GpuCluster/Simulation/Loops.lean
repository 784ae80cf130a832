import GpuCluster.Simulation.World

/-!
# Loops in the simulated world

Each loop runs for some time and then ends; what it reports is noted with the time of the report.
The machine has just been started, so that its clock shows zero.

* `Loops.Log` : the reports so far;
* `Loops.runDispatchers` : several runners that compete for the dispatch loop;
* `Loops.runReconciler`, `Loops.runTelemetry` : the other loops.
-/

namespace GpuCluster.Simulation.Loops

/-- A world and the reports of a loop with their times, the last one first. -/
structure Log (α : Type) where
  world : World
  reports : List (Nat × α) := []

variable {α : Type}

def worldPart : Lens (Log α) World := ⟨Log.world, fun w l => { l with world := w }⟩

def elapsedPart : Lens (Log α) Nat := worldPart.comp World.elapsedPart

/-- Note a report, if reports are wanted. -/
def note (wanted : Bool) (report : α) : Action (Log α) Unit := do
  if wanted then modify fun l => { l with reports := (l.world.elapsed, report) :: l.reports }

/-- Run a loop over the world; answer its result and its reports in order. -/
def logged {β : Type} (x : Action (Log α) β) : Action World (β × List (Nat × α)) := fun w =>
  match x { world := w } with
  | .ok b l => .ok (b, l.reports.reverse) l.world
  | .error f l => .error f l.world

/-! ## Dispatching -/

/-- Start a runner. One that is told to stop at once gives the loop up again. -/
def startRunner (period : Nat) (stopped : Bool) : Action World Unit := do
  Dispatcher.start World.dispatcherPart 0 period
  if stopped then Dispatcher.stop World.dispatcherPart

/-- Start some runners one after the other; answer how each of them starts. -/
def startRunners (period : Nat) (stopped : Bool) : Nat → Action World (List (Except Failure Unit))
  | 0 => return []
  | n + 1 => do
    let first ← (startRunner period stopped).outcome
    return first :: (← startRunners period stopped n)

/-- What a run of the dispatch loop shows. -/
structure DispatchRun where
  /-- The loop was running right before the end. -/
  running : Bool
  results : List (Except Failure Unit)
  reports : List (Nat × Dispatcher.Outcome)

/-- The turns of the runner that holds the loop. -/
def dispatchTurns (now : Instant) (wanted : Bool) (period horizon : Nat) :
    Action (Log Dispatcher.Outcome) Unit :=
  Timetable.run elapsedPart (return false)
    (fun () => do
      let registry := (← get).world.executors.map (Executor.within worldPart)
      Dispatcher.tick (worldPart.comp World.dispatcherPart) registry
        (World.jobStore.within worldPart) now (note wanted))
    (Timetable.every period horizon ())

/-- Let runners compete for the dispatch loop; the first that can be started runs it. -/
def runDispatchers (now : Instant) (runners : Nat) (stopped wanted : Bool) (period horizon : Nat) :
    Action World DispatchRun := do
  let results ← startRunners period stopped runners
  let live := !stopped && results.any Except.isOk
  let reports ← if live then (·.2) <$> logged (dispatchTurns now wanted period horizon) else pure []
  let running := (← get).dispatcher.isRunning
  if live then Dispatcher.stop World.dispatcherPart
  return ⟨running, results, reports⟩

/-! ## Reconciling -/

/-- Run the reconcile loop up to a horizon; answer how it ended, and its reports. -/
def runReconciler (now : Instant) (wanted : Bool) (period horizon : Nat) :
    Action World (Except Failure Unit × List (Nat × Reconcile.Finished)) := do
  let registry := (← get).executors.map (Executor.within worldPart)
  logged (Reconcile.run registry (World.jobStore.within worldPart) (return now) elapsedPart
    (note wanted) 0 period horizon).outcome

/-! ## Telemetry -/

/-- The telemetry of the world, at work within a log. -/
def telemetryWithin (t : Telemetry World) : Telemetry (Log α) where
  names := t.names
  jobs := t.jobs.within worldPart
  usage := t.usage.within worldPart
  backend := t.backend.map fun b expression time => (b expression time).zoom worldPart
  cluster := t.cluster.map fun c podNamespace selector => (c podNamespace selector).zoom worldPart
  clock := t.clock.zoom worldPart
  calledOff := t.calledOff.zoom worldPart

/-- Run telemetry up to a horizon; answer how it ended, and its reports. -/
def runTelemetry (t : Telemetry World) (s : Telemetry.Schedule) (c : Cycle) (wanted : Bool)
    (horizon : Nat) : Action World (Except Failure Unit × List (Nat × Telemetry.Event)) := do
  Action.write World.elapsedPart 0
  Action.write World.cyclePart { c with horizon := horizon }
  let found ← logged ((telemetryWithin t).run s 0 elapsedPart (note wanted) horizon).outcome
  Action.write World.cyclePart {}
  return found

end GpuCluster.Simulation.Loops
