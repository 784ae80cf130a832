import GpuCluster.Dispatcher
import GpuCluster.Timetable

/-!
# The dispatch loop

* `Dispatcher.start` : take the loop, which only one runner can hold, and set its timer;
* `Dispatcher.tick` : hand out one job and report what became of it;
* `Dispatcher.stop` : give the loop up.
-/

namespace GpuCluster.Dispatcher

variable {σ : Type}

/-- Take the loop and set its timer, while the clock shows `uptime`. The loop stays taken even if
the timer cannot be set. -/
def start (part : Lens σ Dispatcher) (uptime period : Nat) : Action σ Unit := do
  if (← Action.read part).isRunning then Action.fail .loopRunning
  else do
    Action.update part ({ · with isRunning := true })
    Action.ofChecked (Timetable.checkPeriod uptime period)

def stop (part : Lens σ Dispatcher) : Action σ Unit :=
  Action.update part ({ · with isRunning := false })

/-- Hand out the next job, if there is one, and report what became of it. -/
def tick (part : Lens σ Dispatcher) (registry : Executor.Registry (Executor σ))
    (store : Job.Store σ) (now : Instant) (report : Outcome → Action σ Unit) : Action σ Unit := do
  match ← dispatchNext part registry store now with
  | some outcome => report outcome
  | none => return

end GpuCluster.Dispatcher
