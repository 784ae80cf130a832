import GpuCluster.Dispatcher.Run
import GpuCluster.Monitor
import GpuCluster.Preemption.Perform
import GpuCluster.Preemption.TierWeight
import GpuCluster.Quota.Book
import GpuCluster.Reconcile.Run
import GpuCluster.Settings

/-!
# The daemon

A daemon admits jobs, dispatches and reconciles them, and gives their units back when they end.

* `Daemon ε` : the state of all components, `ε` being that of the executors;
* `Daemon.Plan`, `Daemon.build` : how the components are put together;
* `Daemon.submit` : reserve units, store the job, make room for it and queue it;
* `Daemon.dispatchNext`, `Daemon.reconcile` : one step of either loop;
* `Daemon.onDispatch`, `Daemon.onFinished` : what follows from the reports of these steps.
-/

namespace GpuCluster

/-- The state of all components of a daemon. -/
structure Daemon (ε : Type) where
  jobs : Job.Archive := .empty
  quotas : Bindings Quota := ∅
  monitor : Monitor := {}
  dispatcher : Dispatcher := {}
  usage : Usage.Tables := {}
  /-- How long the loops have been running, in nanoseconds. -/
  elapsed : Nat := 0
  executors : ε

/-- An error of a component, and what was being done. -/
structure Daemon.Refusal where
  context : String
  cause : Error
  deriving DecidableEq, Repr

def Daemon.Refusal.message (r : Refusal) : String := r.context ++ ": " ++ r.cause.message

namespace Daemon

variable {ε : Type}

/-! ## Parts -/

def jobsPart : Lens (Daemon ε) Job.Archive := ⟨Daemon.jobs, fun x d => { d with jobs := x }⟩

def quotasPart : Lens (Daemon ε) (Bindings Quota) :=
  ⟨Daemon.quotas, fun x d => { d with quotas := x }⟩

def monitorPart : Lens (Daemon ε) Monitor := ⟨Daemon.monitor, fun x d => { d with monitor := x }⟩

def dispatcherPart : Lens (Daemon ε) Dispatcher :=
  ⟨Daemon.dispatcher, fun x d => { d with dispatcher := x }⟩

def usagePart : Lens (Daemon ε) Usage.Tables := ⟨Daemon.usage, fun x d => { d with usage := x }⟩

def elapsedPart : Lens (Daemon ε) Nat := ⟨Daemon.elapsed, fun x d => { d with elapsed := x }⟩

def executorsPart : Lens (Daemon ε) ε := ⟨Daemon.executors, fun x d => { d with executors := x }⟩

def jobStore : Job.Store (Daemon ε) := Job.Store.archive.within jobsPart

def quotaStore : Quota.Store (Daemon ε) := Quota.Store.table.within quotasPart

def usageStore : Usage.Store (Daemon ε) := Usage.Store.tables.within usagePart

/-! ## Building -/

/-- How the components of a daemon are put together. -/
structure Plan (ε : Type) where
  settings : Settings
  registry : Executor.Registry (Executor ε)
  strategies : Preemption.Strategies (Preemption.Strategy (Daemon ε))
  backend : Option (Metrics.Backend (Daemon ε))
  cluster : Option (Cluster (Daemon ε))
  /-- What the clock of the machine shows when the loops set their timers. -/
  uptime : Nat := 0

/-- The executors, at work on their part of the state. -/
def Plan.executors (p : Plan ε) : Executor.Registry (Executor (Daemon ε)) :=
  p.registry.map (Executor.within executorsPart)

/-- Both strategies, over the stored jobs. -/
def knownStrategies (p : Preemption.Policy) :
    Preemption.Strategies (Preemption.Strategy (Daemon ε)) :=
  let cumulative := Preemption.cumulative jobStore p .newestFirst
  let tierWeight := Preemption.tierWeight jobStore p
  (Preemption.Strategies.empty.register cumulative.name cumulative).register
    tierWeight.name tierWeight

/-- The active strategy of the settings is not known. -/
def unknownStrategy (cause : Error) : Refusal := ⟨"Invalid [preemption].active_strategy", cause⟩

/-- Put the components together. The metrics service is that of the settings, if they name one. -/
def build (s : Settings) (registry : Executor.Registry (Executor ε))
    (cluster : Option (Cluster (Daemon ε))) : Except Refusal (Plan ε) :=
  match (knownStrategies s.preemption.policy).activate s.preemption.activeStrategy with
  | .error e => .error (unknownStrategy e)
  | .ok strategies => .ok {
      settings := s
      registry := registry
      strategies := strategies
      backend := s.telemetry.serviceAddress.map fun a => (Metrics.Service.ofAddress a).unreachable
      cluster := cluster }

/-! ## Admission -/

/-- Give the units of a job back. A quota that cannot be found is not heard of. -/
def release (j : Job) : Action (Daemon ε) Unit := Action.tolerate (quotaStore.releaseFor j)

/-- Give the units of a stored job back. -/
def releaseOf (id : JobId) : Action (Daemon ε) Unit := do
  match ← Action.attempt (jobStore.find id) with
  | .ok j => release j
  | .error _ => return

/-- Give the units of some stored jobs back. -/
def releaseAll : List JobId → Action (Daemon ε) Unit
  | [] => return
  | id :: rest => do
    releaseOf id
    releaseAll rest

/-- Make room for a job, if the cluster has none, and give the units of the victims back. A job is
admitted even if no room can be made. -/
def makeRoomFor (p : Plan ε) (now : Instant) (j : Job) : Action (Daemon ε) Unit := do
  match ← Action.attempt (Preemption.makeRoom (Monitor.shortageIn monitorPart) p.strategies
      jobStore none now (.forJob j)) with
  | .ok victims => releaseAll victims
  | .error _ => return

/-- The units of the job are not there. -/
def rejected (id : JobId) (cause : Error) : Refusal := ⟨"Job " ++ id.toText ++ " rejected", cause⟩

/-- The job cannot be stored. -/
def notStored (cause : Error) : Refusal := ⟨"Failed to store job", cause⟩

def submit (p : Plan ε) (now : Instant) (j : Job) : Action (Daemon ε) (Except Refusal Unit) := do
  match ← Action.attempt (quotaStore.reserveFor j) with
  | .error e => return .error (rejected j.id e)
  | .ok () => do
    match ← Action.attempt (jobStore.create j) with
    | .error e => do
      release j
      return .error (notStored e)
    | .ok () => do
      makeRoomFor p now j
      Action.update dispatcherPart (·.enqueue j)
      return .ok ()

/-! ## Steps -/

def dispatchNext (p : Plan ε) (now : Instant) : Action (Daemon ε) (Option Dispatcher.Outcome) :=
  Dispatcher.dispatchNext dispatcherPart p.executors jobStore now

def reconcile (p : Plan ε) (now : Instant) : Action (Daemon ε) (List Reconcile.Finished) :=
  Reconcile.pass p.executors jobStore now

/-- A job that could not be launched gives its units back. -/
def onDispatch : Dispatcher.Outcome → Action (Daemon ε) Unit
  | .failed id _ => releaseOf id
  | .started _ | .unsupported _ _ => return

/-- A job that has ended gives its units back. -/
def onFinished (f : Reconcile.Finished) : Action (Daemon ε) Unit := releaseOf f.id

end Daemon

end GpuCluster
