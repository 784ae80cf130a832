import GpuCluster.Telemetry.Collect
import GpuCluster.Telemetry.Summarize
import GpuCluster.Timetable

/-!
# Running telemetry

Snapshots are collected and jobs summarized at once and then at every tick of one timer; old
snapshots go at every tick of another.

* `Telemetry.Event`, `Event.of?` : what a stage reports; one that was called off reports nothing;
* `Telemetry.perform` : one stage;
* `Telemetry.run` : all stages up to a horizon.
-/

namespace GpuCluster.Telemetry

inductive Stage where
  | collect
  | summarize
  | cleanUp
  deriving DecidableEq, Repr

def Stage.name : Stage → String
  | collect => "collect"
  | summarize => "summarize"
  | cleanUp => "cleanup"

inductive Event where
  | collected (snapshots : Nat)
  | summarized (summaries : Nat)
  | cleanedUp (removed : Nat)
  | failed (stage : Stage) (message : String)
  deriving DecidableEq, Repr

namespace Event

/-- The report of a stage that succeeded. -/
def success : Stage → Nat → Event
  | .collect => collected
  | .summarize => summarized
  | .cleanUp => cleanedUp

/-- The report of a stage; there is none of a stage that was called off. -/
def of? (stage : Stage) : Except Error Nat → Option Event
  | .ok n => some (success stage n)
  | .error (.cancelled _) => none
  | .error e => some (failed stage e.message)

end Event

/-- When stages run, and the age up to which snapshots are kept. -/
structure Schedule where
  collectInterval : Duration
  cleanUpInterval : Duration
  retention : Duration
  deriving DecidableEq, Repr

/-- What is due at a tick. -/
inductive Turn where
  /-- Collect, then summarize. -/
  | sample
  | cleanUp
  deriving DecidableEq, Repr

variable {σ : Type}

def stageAction (t : Telemetry σ) (s : Schedule) : Stage → Action σ Nat
  | .collect => t.collect
  | .summarize => t.summarize
  | .cleanUp => t.cleanUp s.retention

/-- Go through a stage and report how it ended. -/
def perform (t : Telemetry σ) (s : Schedule) (report : Event → Action σ Unit) (stage : Stage) :
    Action σ Unit := do
  match Event.of? stage (← Action.attempt (t.stageAction s stage)) with
  | some e => report e
  | none => return

/-- Go through the stages that are due. -/
def takeTurn (t : Telemetry σ) (s : Schedule) (report : Event → Action σ Unit) :
    Turn → Action σ Unit
  | .sample => do
    t.perform s report .collect
    t.perform s report .summarize
  | .cleanUp => t.perform s report .cleanUp

/-- Both timers can be set while the clock shows `uptime`. -/
def Schedule.check (s : Schedule) (uptime : Nat) : Except Fault Unit := do
  Timetable.checkPeriod uptime s.collectInterval.toNanos
  Timetable.checkPeriod uptime s.cleanUpInterval.toNanos

/-- What is due before a horizon, apart from the first turn. -/
def Schedule.timetable (s : Schedule) (horizon : Nat) : List (Nat × Turn) :=
  Timetable.merge (Timetable.every s.collectInterval.toNanos horizon .sample)
    (Timetable.every s.cleanUpInterval.toNanos horizon .cleanUp)

/-- Run telemetry up to a horizon, or until it is called off. The first turn comes at once, called
off or not; then the timers are set, while the clock shows `uptime`. -/
def run (t : Telemetry σ) (s : Schedule) (uptime : Nat) (elapsed : Lens σ Nat)
    (report : Event → Action σ Unit) (horizon : Nat) : Action σ Unit := do
  t.takeTurn s report .sample
  Action.ofChecked (s.check uptime)
  Timetable.run elapsed t.calledOff (t.takeTurn s report) (s.timetable horizon)

end GpuCluster.Telemetry
