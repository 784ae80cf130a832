import GpuCluster.Dispatcher.Run
import GpuCluster.Metrics.Response
import GpuCluster.Monitor
import GpuCluster.Preemption.Perform
import GpuCluster.Preemption.TierWeight
import GpuCluster.Quota.Book
import GpuCluster.Reconcile.Run
import GpuCluster.Telemetry.Run

/-!
# A simulated world

All components are connected, and their collaborators follow a script.

* `FaultPoint` : the calls that can be made to fail or to act up;
* `ExecutorScript`, `StrategyScript`, `SeriesScript`, `PodsScript` : what collaborators do;
* `World` : the state of components and scripts;
* `World.jobStore`, `World.executors`, `World.strategies`, `World.telemetry`, ... : the components.
-/

namespace GpuCluster.Simulation

/-! ## Scripts -/

/-- The calls that can be made to fail; of the last two, the first lets a look-up say that a job is
running, and the second cancels a job right before a conditional write. -/
inductive FaultPoint where
  | list
  | get
  | create
  | update
  | updateIf
  | quotaGet
  | quotaPut
  | usageInsert
  | usagePage
  | usageListAll
  | usageGetSummary
  | usageUpsert
  | usageDelete
  | getLag
  | updateIfMoved
  deriving DecidableEq, Repr

namespace FaultPoint

def name : FaultPoint → String
  | list => "list"
  | get => "get"
  | create => "create"
  | update => "update"
  | updateIf => "update_if"
  | quotaGet => "quota_get"
  | quotaPut => "quota_put"
  | usageInsert => "usage_insert"
  | usagePage => "usage_page"
  | usageListAll => "usage_list_all"
  | usageGetSummary => "usage_get_summary"
  | usageUpsert => "usage_upsert"
  | usageDelete => "usage_delete"
  | getLag => "get_lag"
  | updateIfMoved => "update_if_moved"

def all : List FaultPoint :=
  [list, get, create, update, updateIf, quotaGet, quotaPut, usageInsert, usagePage, usageListAll,
    usageGetSummary, usageUpsert, usageDelete, getLag, updateIfMoved]

def ofName? (n : String) : Option FaultPoint := all.find? (·.name == n)

end FaultPoint

structure ExecutorScript where
  name : String := "stub"
  supports : List String := []
  /-- What launching fails with, for all jobs or for one. -/
  launchError : Option Error := none
  launchErrorOf : List (JobId × Error) := []
  /-- What it says about a job, in general or about one. -/
  status : Except Error JobStatus := .ok .running
  statusOf : List (JobId × Except Error JobStatus) := []
  releaseError : Option Error := none

/-- The name of the executor that takes everything, finishes at once and is not watched. -/
def plainName : String := "plain"

def filedFor {α : Type} (entries : List (JobId × α)) (id : JobId) : Option α :=
  (entries.find? (·.1 == id)).map (·.2)

inductive StrategyRule where
  | cumulative (order : Preemption.VictimOrder)
  | tierWeight
  /-- Always the same victims, or an error. -/
  | fixed (name : String) (victims : List JobId) (reason : String) (error : Option Error)

/-- A strategy and what goes for its decisions. -/
structure StrategyScript where
  rule : StrategyRule
  policy : Preemption.Policy

def StrategyScript.name (s : StrategyScript) : String :=
  match s.rule with
  | .cumulative _ => Preemption.cumulativeName
  | .tierWeight => Preemption.tierWeightName
  | .fixed name _ _ _ => name

inductive SeriesScript where
  | samples (xs : List Metrics.Sample)
  /-- The body of a response. -/
  | body (text : String)
  | error (e : Error)
  /-- There is no answer until the cycle is called off. -/
  | hang

/-- What a listing of pods is answered with. -/
inductive PodsScript where
  | pods (xs : List Pod)
  | error (e : Error)

inductive TelemetryCall where
  | list (podNamespace selector : String)
  | query (expression : String)
  deriving DecidableEq, Repr

/-- How the evictor answers; it notes every call. -/
structure EvictorScript where
  error : Option Error := none

/-- A call of the evictor: the victim, the grace period, and the status it was handed over with. -/
structure Eviction where
  id : JobId
  grace : Option Duration
  status : JobStatus
  deriving DecidableEq, Repr

structure ExecutorCall where
  executor : String
  operation : String
  id : JobId
  deriving DecidableEq, Repr

/-! ## State -/

/-- What happens to telemetry during one step. -/
structure Cycle where
  calledOff : Bool := false
  /-- The query, or the listing, during which the cycle is called off; counted from one. -/
  callOffAtQuery : Option Nat := none
  callOffAtListing : Option Nat := none
  queries : Nat := 0
  listings : Nat := 0
  calls : List TelemetryCall := []
  /-- How long a call that hangs lasts, in nanoseconds since the start. -/
  horizon : Nat := 0

/-- The state of all components and scripts. -/
structure World where
  jobs : Job.Archive := .empty
  faults : List FaultPoint := []
  queue : Job.Queue := .empty
  dispatcher : Dispatcher := {}
  registry : Executor.Registry ExecutorScript := .empty
  executorCalls : List ExecutorCall := []
  quotas : Bindings Quota := ∅
  monitor : Monitor := {}
  strategyScripts : Preemption.Strategies StrategyScript := .empty
  evictor : Option EvictorScript := none
  evictions : List Eviction := []
  usage : Usage.Tables := {}
  series : Bindings SeriesScript := ∅
  pods : Bindings PodsScript := ∅
  cycle : Cycle := {}
  elapsed : Nat := 0

namespace World

def jobsPart : Lens World Job.Archive := ⟨World.jobs, fun x w => { w with jobs := x }⟩

def queuePart : Lens World Job.Queue := ⟨World.queue, fun x w => { w with queue := x }⟩

def dispatcherPart : Lens World Dispatcher :=
  ⟨World.dispatcher, fun x w => { w with dispatcher := x }⟩

def quotasPart : Lens World (Bindings Quota) := ⟨World.quotas, fun x w => { w with quotas := x }⟩

def monitorPart : Lens World Monitor := ⟨World.monitor, fun x w => { w with monitor := x }⟩

def usagePart : Lens World Usage.Tables := ⟨World.usage, fun x w => { w with usage := x }⟩

def cyclePart : Lens World Cycle := ⟨World.cycle, fun x w => { w with cycle := x }⟩

def elapsedPart : Lens World Nat := ⟨World.elapsed, fun x w => { w with elapsed := x }⟩

/-! ## Stores -/

/-- A call that fails while its fault is on. -/
def guarded {α : Type} (point : FaultPoint) (x : Action World α) : Action World α := do
  if (← get).faults.contains point then Action.fail (.unavailable ("injected " ++ point.name))
  else x

def isOn (point : FaultPoint) : Action World Bool := return (← get).faults.contains point

/-- The stored jobs, faults aside. -/
def soundJobStore : Job.Store World := Job.Store.archive.within jobsPart

def jobStore : Job.Store World where
  withStatus statuses := guarded .list (soundJobStore.withStatus statuses)
  find id := guarded .get do
    let j ← soundJobStore.find id
    if ← isOn .getLag then return { j with status := .running } else return j
  create j := guarded .create (soundJobStore.create j)
  record now id status reason := guarded .update (soundJobStore.record now id status reason)
  recordIf now id expected status reason := guarded .updateIf do
    if ← isOn .updateIfMoved then
      Action.tolerate (soundJobStore.record now id .cancelled none)
    soundJobStore.recordIf now id expected status reason

/-- The stored quotas, faults aside. -/
def soundQuotaStore : Quota.Store World := Quota.Store.table.within quotasPart

def quotaStore : Quota.Store World where
  get project := guarded .quotaGet (soundQuotaStore.get project)
  put q := guarded .quotaPut (soundQuotaStore.put q)

/-- The stored usage records, faults aside. -/
def soundUsageStore : Usage.Store World := Usage.Store.tables.within usagePart

def usageStore : Usage.Store World where
  insert batch := guarded .usageInsert (soundUsageStore.insert batch)
  page id limit offset := guarded .usagePage (soundUsageStore.page id limit offset)
  ofJob id := guarded .usageListAll (soundUsageStore.ofJob id)
  summary? id := guarded .usageGetSummary (soundUsageStore.summary? id)
  putSummary s := guarded .usageUpsert (soundUsageStore.putSummary s)
  dropBefore cutoff := guarded .usageDelete (soundUsageStore.dropBefore cutoff)

/-! ## Executors -/

/-- Fail with an error, if there is one. -/
def failWith : Option Error → Action World Unit
  | some e => Action.fail e
  | none => return

/-- Note a call of an executor. -/
def noteCall (executor operation : String) (id : JobId) : Action World Unit :=
  modify fun w => { w with executorCalls := w.executorCalls ++ [⟨executor, operation, id⟩] }

/-- The executor that takes everything and finishes at once. -/
def plainExecutor : Executor World where
  name := plainName
  supports _ := true
  execute _ := return
  cancel _ := return
  status _ := return .completed
  logs _ := return ""
  release _ := return

def scriptedExecutor (s : ExecutorScript) : Executor World where
  name := s.name
  supports jobType := s.supports.contains jobType
  execute j := do
    noteCall s.name "execute" j.id
    failWith ((filedFor s.launchErrorOf j.id).or s.launchError)
  cancel _ := return
  status id := do
    noteCall s.name "status" id
    Action.ofExcept ((filedFor s.statusOf id).getD s.status)
  logs _ := return ""
  release id := do
    noteCall s.name "release" id
    failWith s.releaseError

/-- The executor that a script stands for. -/
def executorOf (s : ExecutorScript) : Executor World :=
  if s.name = plainName then plainExecutor else scriptedExecutor s

def executors (w : World) : Executor.Registry (Executor World) := w.registry.map executorOf

/-- The executor calls since the last time. -/
def takeExecutorCalls : Action World (List ExecutorCall) := do
  let calls := (← get).executorCalls
  modify ({ · with executorCalls := [] })
  return calls

/-! ## Preemption -/

/-- The strategy that a script stands for. -/
def strategyOf (s : StrategyScript) : Preemption.Strategy World :=
  match s.rule with
  | .cumulative order => Preemption.cumulative jobStore s.policy order
  | .tierWeight => Preemption.tierWeight jobStore s.policy
  | .fixed name victims reason error =>
    { name := name
      decide := fun q => do
        failWith error
        return .of victims reason q s.policy }

def strategies (w : World) : Preemption.Strategies (Preemption.Strategy World) :=
  w.strategyScripts.map strategyOf

/-- Make a strategy known under its own name. -/
def registerStrategy (s : StrategyScript) (w : World) : World :=
  { w with strategyScripts := w.strategyScripts.register s.name s }

/-- The evictor, which notes every call. -/
def evictorAction (s : EvictorScript) : Preemption.Evictor World := fun j grace => do
  modify fun w => { w with evictions := w.evictions ++ [⟨j.id, grace, j.status⟩] }
  failWith s.error

def evictorOf (w : World) : Option (Preemption.Evictor World) := w.evictor.map evictorAction

def takeEvictions : Action World (List Eviction) := do
  let found := (← get).evictions
  modify ({ · with evictions := [] })
  return found

def perform (now : Instant) (q : Requirement) : Action World Preemption.Decision := do
  let w ← get
  Preemption.perform w.strategies jobStore w.evictorOf now q

/-- The cluster has no room for more work. -/
def shortage : Action World Bool := Monitor.shortageIn monitorPart

def makeRoom (now : Instant) (q : Requirement) : Action World (List JobId) := do
  let w ← get
  Preemption.makeRoom shortage w.strategies jobStore w.evictorOf now q

/-! ## Telemetry -/

def callOff : Action World Unit := Action.update cyclePart ({ · with calledOff := true })

/-- Never answer. The call ends when the cycle is called off, at the horizon at the latest. -/
def hang {α : Type} : Action World α := do
  if !(← get).cycle.calledOff then
    Action.write elapsedPart (← get).cycle.horizon
    callOff
  Action.fail .cycleCalledOff

def answerQuery (expression : String) : Action World (List Metrics.Sample) := do
  match (← get).series.get? expression with
  | none => Action.fail (.metrics ("no series for " ++ expression))
  | some (.samples xs) => return xs
  | some (.body text) => Action.ofExcept (Metrics.samples text)
  | some (.error e) => Action.fail e
  | some .hang => hang

/-- The metrics backend, which notes every query. -/
def backend : Metrics.Backend World := fun expression _ => do
  Action.update cyclePart fun c =>
    { c with queries := c.queries + 1, calls := c.calls ++ [.query expression] }
  let c := (← get).cycle
  if c.callOffAtQuery = some c.queries then callOff
  answerQuery expression

/-- The name under which the pods of a selector are filed. -/
def podsKey (podNamespace selector : String) : String := podNamespace ++ "|" ++ selector

/-- The cluster, which notes every listing. -/
def cluster : Cluster World := fun podNamespace selector => do
  Action.update cyclePart fun c =>
    { c with listings := c.listings + 1, calls := c.calls ++ [.list podNamespace selector] }
  let c := (← get).cycle
  if c.callOffAtListing = some c.listings then callOff
  match (← get).pods.get? (podsKey podNamespace selector) with
  | none => return []
  | some (.pods xs) => return xs
  | some (.error e) => Action.fail e

/-- How telemetry is set up. -/
structure TelemetrySetup where
  names : Telemetry.Names := {}
  hasBackend : Bool := true
  hasCluster : Bool := true

def telemetry (s : TelemetrySetup) (now : Instant) : Telemetry World where
  names := s.names
  jobs := jobStore
  usage := usageStore
  backend := if s.hasBackend then some backend else none
  cluster := if s.hasCluster then some cluster else none
  clock := return now
  calledOff := return (← get).cycle.calledOff

/-- Go through a step of telemetry that is or will be called off as `c` says; answer how it ended
and which calls it made. -/
def withCycle {α : Type} (c : Cycle) (x : Action World α) :
    Action World (Except Failure α × List TelemetryCall) := do
  Action.write elapsedPart 0
  Action.write cyclePart c
  let result ← x.outcome
  let calls := (← get).cycle.calls
  Action.write cyclePart {}
  return (result, calls)

end World

end GpuCluster.Simulation
