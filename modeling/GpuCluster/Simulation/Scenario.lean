import GpuCluster.Simulation.Programs
import GpuCluster.Simulation.World
import GpuCluster.Usage.Account

/-!
# Scenarios in JSON

A scenario names what matters and leaves the rest to defaults: a member that is absent or null has
its default. A name without a default is required.

* `job?`, `requirement?`, `reading?`, `snapshot?`, ... : values of the domain;
* `executorScript?`, `strategyScript?`, `seriesScript?`, `podsScript?` : what collaborators do;
* `world?`, `setup?` : a world at its start and what is fixed while it runs;
* `processSettings?`, `mpiSettings?` : executors on the simulated machine.
-/

namespace GpuCluster.Simulation.Scenario

/-! ## Members -/

/-- A member that must be there. -/
def need {α : Type} (j : Json) (name : String) (item : Json → Option α) : Option α :=
  item (j.memberOrNull name)

/-- A member with a value for null and absence. -/
def opt {α : Type} (j : Json) (name : String) (default : α) (item : Json → Option α) : Option α :=
  match j.memberOrNull name with
  | .null => some default
  | x => item x

/-- A member that may be null or absent. -/
def maybe {α : Type} (j : Json) (name : String) (item : Json → Option α) : Option (Option α) :=
  (j.memberOrNull name).nullOr? item

/-- There is a member of this name. -/
def has (j : Json) (name : String) : Bool := (j.member? name).isSome

/-- All members of an object, in order. -/
def membersOf? : Json → Option (List (String × Json))
  | .obj ms => some ms
  | _ => none

/-- All members of an object, each read with its name. -/
def membersWith? {α : Type} (item : String → Json → Option α) (j : Json) :
    Option (List (String × α)) := do
  (← membersOf? j).mapM fun (k, x) => do return (k, ← item k x)

/-- A number, or the name of one that JSON has no numeral for. -/
def float? : Json → Option Float
  | .str "NaN" => some (Float.ofBits 0x7ff8000000000000)
  | .str "inf" => some (Float.ofBits 0x7ff0000000000000)
  | .str "-inf" => some (Float.ofBits 0xfff0000000000000)
  | j => j.float?

def nat? (j : Json) : Option Nat := j.u64?.map UInt64.toNat

/-- The bytes of a text of hexadecimal digits. -/
def hexBytes? (text : String) : Option (List UInt8) :=
  let bytes := Programs.hexBytes text.toList
  if bytes.length * 2 = text.length then some bytes else none

/-! ## Values of the domain -/

/-- The instant of jobs and snapshots that name none: the start of the year 2024. -/
def defaultInstant : Instant := ⟨1704067200, 0⟩

def job? (j : Json) : Option Job := do
  return {
    id := ← need j "id" Json.jobId?
    name := ← opt j "name" "job" Json.text?
    projectId := ← opt j "project_id" "" Json.text?
    namespaceName := ← opt j "namespace" "default" Json.text?
    status := ← opt j "status" .pending JobStatus.fromJson?
    priorityClass := ← opt j "priority_class" "" Json.text?
    priorityValue := ← opt j "priority_value" 0 Json.i32?
    requiredGpu := ← opt j "required_gpu" 0 Json.u32?
    mpsUnits := ← opt j "mps_units" 0 Json.u32?
    node := ← maybe j "node" Json.text?
    jobType := ← opt j "job_type" Job.batchType Json.text?
    command := ← opt j "command" [] (Json.listOf? Json.text?)
    env := ← opt j "env" ∅ (Json.mapOf? Json.text?)
    replicas := ← opt j "replicas" 1 Json.u32?
    errorMessage := ← maybe j "error_message" Json.text?
    createdAt := ← opt j "created_at" defaultInstant Json.instant?
    startedAt := ← maybe j "started_at" Json.instant?
    completedAt := ← maybe j "completed_at" Json.instant? }

/-- A requirement, given by its amounts or by the job it is for. -/
def requirement? (j : Json) : Option Requirement := do
  if has j "for_job" then return .forJob (← need j "for_job" job?)
  return {
    cpu := ← opt j "cpu" 0 float?
    memory := ← opt j "memory" 0 Json.u64?
    gpu := ← opt j "gpu" 0 Json.u32?
    mps := ← opt j "mps" 0 Json.u32?
    priorityValue := ← opt j "priority_value" 0 Json.i32?
    requestedBy := ← maybe j "requested_by" Json.jobId? }

def reading? (j : Json) : Option Reading := do
  return {
    totalCpu := ← opt j "total_cpu" 0 float?
    usedCpu := ← opt j "used_cpu" 0 float?
    totalMemory := ← opt j "total_memory" 0 Json.u64?
    usedMemory := ← opt j "used_memory" 0 Json.u64?
    totalGpu := ← opt j "total_gpu" 0 Json.u32?
    usedGpu := ← opt j "used_gpu" 0 Json.u32?
    availableMps := ← opt j "available_mps" 0 Json.u32?
    timestamp := ← maybe j "timestamp" Json.instant?
    nodeName := ← maybe j "node_name" Json.text?
    podCount := ← opt j "pod_count" 0 Json.u32?
    jobCount := ← opt j "job_count" 0 Json.u32? }

def snapshot? (j : Json) : Option Usage.Snapshot := do
  return {
    id := ← opt j "id" 0 nat?
    jobId := ← need j "job_id" Json.jobId?
    timestamp := ← opt j "timestamp" defaultInstant Json.instant?
    podName := ← opt j "pod_name" "pod-0" Json.text?
    podNamespace := ← opt j "pod_namespace" "ml" Json.text?
    gpuIndex := ← opt j "gpu_index" 0 Json.i32?
    gpuUuid := ← opt j "gpu_uuid" "GPU-a" Json.text?
    memoryBytes := ← opt j "gpu_memory_bytes" 0 Json.i64?
    utilization := ← opt j "gpu_utilization" 0 float?
    node := ← opt j "node" "node-1" Json.text?
    units := ← opt j "mps_virtual_units" 0 Json.u32?
    physicalIndex := ← opt j "mps_physical_gpu_index" 0 Json.i32? }

def summary? (j : Json) : Option Usage.Summary := do
  return {
    jobId := ← need j "job_id" Json.jobId?
    totalGpuSeconds := ← need j "total_gpu_seconds" float?
    peakMemoryBytes := ← need j "peak_memory_bytes" Json.i64?
    averageUtilization := ← need j "avg_utilization" float?
    averageMemoryBytes := ← need j "avg_memory_bytes" Json.i64?
    sampleCount := ← need j "sample_count" nat?
    firstSampleAt := ← maybe j "first_sample_at" Json.instant?
    lastSampleAt := ← maybe j "last_sample_at" Json.instant?
    computedAt := ← need j "computed_at" Json.instant? }

def sample? (j : Json) : Option Metrics.Sample := do
  return ⟨← opt j "labels" ∅ (Json.mapOf? Json.text?), ← opt j "value" 0 float?⟩

def policy? (j : Json) : Option Preemption.Policy := do
  return {
    gracePeriod := .ofSeconds (← opt j "grace_period_secs" 120 nat?)
    checkpoint := ← opt j "enable_checkpoint" true Json.bool?
    maxVictims := ← opt j "max_preemptions" 5 nat?
    notifyUsers := ← opt j "notify_users" true Json.bool? }

/-- An error, given by its kind and its detail. -/
def error? : Json → Option Error
  | .arr [.str kind, .str detail] => Error.ofKind? kind detail
  | _ => none

def order? : Json → Option Preemption.VictimOrder
  | .str "newest" | .str "default" | .null => some .newestFirst
  | .str "oldest" => some .oldestFirst
  | _ => none

/-! ## Scripts -/

def statusOrError? : Json → Option (Except Error JobStatus)
  | .str s => (JobStatus.ofName? s).map .ok
  | j => (error? j).map .error

def filed? {α : Type} (item : Json → Option α) (j : Json) : Option (List (JobId × α)) := do
  (← membersOf? j).mapM fun (k, x) => do return (← JobId.parse? k, ← item x)

def executorScript? (j : Json) : Option ExecutorScript := do
  return {
    name := ← opt j "name" "stub" Json.text?
    supports := ← opt j "supports" [] (Json.listOf? Json.text?)
    launchError := ← maybe j "fail" error?
    launchErrorOf := ← opt j "fail_of" [] (filed? error?)
    status := ← opt j "status" (.ok .running) statusOrError?
    statusOf := ← opt j "status_of" [] (filed? statusOrError?)
    releaseError := ← maybe j "fail_release" error? }

def rule? (j : Json) : Option StrategyRule := do
  match ← need j "kind" Json.text? with
  | "cumulative" => return .cumulative (← order? (j.memberOrNull "order"))
  | "weight" => return .tierWeight
  | "fixed" => do
    let victims ← opt j "victims" [] (Json.listOf? Json.jobId?)
    let reason ← opt j "reason" "fixed" Json.text?
    return .fixed (← opt j "name" "fixed" Json.text?) victims reason (← maybe j "fail" error?)
  | _ => none

def strategyScript? (default : Preemption.Policy) (j : Json) : Option StrategyScript := do
  return ⟨← rule? j, ← opt j "config" default policy?⟩

def seriesScript? : Json → Option SeriesScript
  | .str "hang" => some .hang
  | .arr xs => (xs.mapM sample?).map .samples
  | j =>
    if has j "body" then (need j "body" Json.text?).map .body
    else (need j "error" error?).map .error

/-- A pod, in this namespace if it names none. -/
def pod? (podNamespace : String) (j : Json) : Option Pod := do
  return {
    name := ← opt j "name" "pod-0" Json.text?
    namespaceName := ← opt j "namespace" podNamespace Json.text?
    phase := .ofName (← opt j "phase" "Running" Json.text?)
    nodeName := ← opt j "node_name" "node-1" Json.text?
    gpuRequest := ← opt j "gpu_request" 1 Json.u32? }

/-- What a listing is answered with; `key` is the namespace and the selector that it asks for. -/
def podsScript? (key : String) : Json → Option PodsScript
  | .arr xs => (xs.mapM (pod? ((key.splitOn "|").headD ""))).map .pods
  | j => (need j "error" error?).map .error

def series? : Json → Option (List (String × SeriesScript)) := membersWith? fun _ => seriesScript?

/-- The scripts of listings, by namespace and selector. -/
def pods? : Json → Option (List (String × PodsScript)) := membersWith? podsScript?

/-- How a step of telemetry is called off. -/
def cycle? (j : Json) : Option Cycle := do
  return {
    calledOff := ← opt j "cancel" false Json.bool?
    callOffAtQuery := ← maybe j "cancel_at_query" nat?
    callOffAtListing := ← maybe j "cancel_at_list" nat? }

/-! ## Worlds -/

/-- Store jobs one after the other; one that cannot be stored is passed over. -/
def storeAll : List Job → Job.Archive → Job.Archive
  | [], a => a
  | j :: rest, a => storeAll rest (match a.add j with | .ok a => a | .error _ => a)

def evictor? : Json → Option (Option EvictorScript)
  | .null => some none
  | .arr [] => some (some {})
  | e => do return some { error := some (← error? e) }

def world? (j : Json) : Option World := do
  let jobs ← opt j "jobs" [] (Json.listOf? job?)
  let executors ← opt j "executors" [] (Json.listOf? fun e => do
    return (← need e "type" Json.text?, ← executorScript? e))
  let policy ← opt j "preemption" {} policy?
  let strategies ← opt j "strategies" [] (Json.listOf? (strategyScript? policy))
  let w : World := {
    jobs := storeAll jobs .empty
    registry := executors.foldl (fun r (jobType, script) => r.register jobType script) .empty
    evictor := ← evictor? (j.memberOrNull "evictor")
    series := Bindings.ofList (← opt j "series" [] series?)
    pods := Bindings.ofList (← opt j "pods" [] pods?) }
  return strategies.foldl (fun w s => World.registerStrategy s w) w

/-- What is fixed while a world runs; intervals in milliseconds. -/
structure Setup where
  tickMillis : Nat
  reconcileMillis : Nat
  telemetry : World.TelemetrySetup

def setup? (j : Json) : Option Setup := do
  let t := j.memberOrNull "telemetry"
  let d : Telemetry.Names := {}
  return {
    tickMillis := ← opt j "tick_ms" 5000 nat?
    reconcileMillis := ← opt j "reconcile_ms" 10000 nat?
    telemetry := {
      names := {
        jobLabel := ← opt t "job_label_key" d.jobLabel Json.text?
        memoryMetric := ← opt t "memory_metric" d.memoryMetric Json.text?
        utilizationMetric := ← opt t "utilization_metric" d.utilizationMetric Json.text? }
      hasBackend := ← opt j "metrics" true Json.bool?
      hasCluster := ← opt j "cluster" true Json.bool? } }

/-! ## Executors on the simulated machine -/

def processSettings? (j : Json) : Option Process.Settings := do
  let directory ← match j.memberOrNull "working_dir" with
    | .str "here" => some (some Programs.place)
    | .str "missing" => some (some Programs.nowhere)
    | .null => some none
    | _ => none
  return {
    directory := directory
    environment := ← opt j "extra_env" ∅ (Json.mapOf? Json.text?)
    jobTypes := ← opt j "job_types" [Job.batchType] (Json.listOf? Json.text?) }

def mpiSettings? (j : Json) : Option Mpi.Settings := do
  let missing ← opt j "hostfile_dir_missing" false Json.bool?
  return {
    launcher := ← opt j "mpirun" "mpirun" Json.text?
    directory := if missing then Programs.nowhere else Programs.place
    slotsPerReplica := ← opt j "slots" 1 Json.u32? }

end GpuCluster.Simulation.Scenario
