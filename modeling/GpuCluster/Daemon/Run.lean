import GpuCluster.Daemon.Basic

/-!
# Running a daemon

The dispatch loop, the reconcile loop and telemetry run side by side; each report is acted upon at
once.

* `Daemon.timetable` : the turns of all loops before a horizon;
* `Daemon.run` : all of them.
-/

namespace GpuCluster.Daemon

variable {ε : Type}

/-- Telemetry over the components of a daemon. Nothing calls its cycles off. -/
def telemetry (p : Plan ε) (now : Instant) : Telemetry (Daemon ε) where
  names := p.settings.telemetry.names
  jobs := jobStore
  usage := usageStore
  backend := p.backend
  cluster := p.cluster
  clock := return now
  calledOff := return false

inductive Turn where
  | dispatch
  | reconcile
  | telemetry (turn : Telemetry.Turn)
  deriving DecidableEq, Repr

/-- The turns of all loops before a horizon, apart from the first one of telemetry. -/
def timetable (s : Settings) (horizon : Nat) : List (Nat × Turn) :=
  let dispatch := Timetable.every s.scheduler.tickInterval.toNanos horizon Turn.dispatch
  let reconcile := Timetable.every s.scheduler.reconcileInterval.toNanos horizon Turn.reconcile
  let telemetry := (s.telemetry.schedule.timetable horizon).map fun (time, turn) =>
    (time, Turn.telemetry turn)
  Timetable.merge dispatch (Timetable.merge reconcile telemetry)

/-- One turn. What telemetry reports is not acted upon. -/
def takeTurn (p : Plan ε) (now : Instant) : Turn → Action (Daemon ε) Unit
  | .dispatch => Dispatcher.tick dispatcherPart p.executors jobStore now onDispatch
  | .reconcile => Reconcile.tick p.executors jobStore now onFinished
  | .telemetry turn =>
    (telemetry p now).takeTurn p.settings.telemetry.schedule (fun _ => return) turn

/-- Run all loops up to a horizon; answer whether the monitor was running meanwhile. The run ends
with the first loop that breaks off. -/
def run (p : Plan ε) (now : Instant) (horizon : Nat) : Action (Daemon ε) Bool := do
  Action.update monitorPart Monitor.start
  Dispatcher.start dispatcherPart p.uptime p.settings.scheduler.tickInterval.toNanos
  Action.ofChecked (Timetable.checkPeriod p.uptime p.settings.scheduler.reconcileInterval.toNanos)
  takeTurn p now (.telemetry .sample)
  Action.ofChecked (p.settings.telemetry.schedule.check p.uptime)
  Timetable.run elapsedPart (return false) (takeTurn p now) (timetable p.settings horizon)
  let running := (← Action.read monitorPart).isRunning
  Dispatcher.stop dispatcherPart
  Action.update monitorPart Monitor.stop
  return running

end GpuCluster.Daemon
