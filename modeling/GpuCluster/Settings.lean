import GpuCluster.Preemption.Decision
import GpuCluster.Telemetry.Run
import GpuCluster.Text.Json.Record
import GpuCluster.Text.Toml.Parse

/-!
# Settings

All settings have defaults. They are read from a TOML file, whose tables may also be given as arrays
of the values in order, or from JSON.

* `Settings` : one record per table;
* `Settings.fromJson?`, `Settings.ofToml?` : reading;
* `Settings.ofFile` : the settings of a file, or why there are none;
* `tickInterval`, `policy`, `schedule`, ... : what the settings mean to the components.
-/

namespace GpuCluster

structure Settings.Scheduler where
  tickSeconds : Nat := 5
  reconcileSeconds : Nat := 10
  deriving DecidableEq, Repr, Inhabited

/-- Shares of GPUs. The value is informative only. -/
structure Settings.Shares where
  unitsPerGpu : UInt32 := Mps.unitsPerGpu
  deriving DecidableEq, Repr, Inhabited

structure Settings.Preempting where
  activeStrategy : String := "cumulative-gpu"
  graceSeconds : Nat := 120
  checkpoint : Bool := true
  maxVictims : Nat := 5
  notifyUsers : Bool := true
  deriving DecidableEq, Repr, Inhabited

structure Settings.Telemetering where
  serviceAddress : Option String := none
  collectSeconds : Nat := 30
  cleanUpSeconds : Nat := 86400
  retentionSeconds : Nat := 2592000
  names : Telemetry.Names := {}
  querySeconds : Nat := 10
  deriving DecidableEq, Repr, Inhabited

structure Settings.ClusterAccess where
  enabled : Bool := true
  kubeconfig : Option String := none
  deriving DecidableEq, Repr, Inhabited

structure Settings.Logging where
  level : String := "info"
  /-- Directives that replace the level. -/
  filter : Option String := none
  deriving DecidableEq, Repr, Inhabited

structure Settings where
  scheduler : Settings.Scheduler := {}
  mps : Settings.Shares := {}
  preemption : Settings.Preempting := {}
  telemetry : Settings.Telemetering := {}
  cluster : Settings.ClusterAccess := {}
  logging : Settings.Logging := {}
  deriving DecidableEq, Repr, Inhabited

namespace Settings

/-! ## What they mean -/

/-- Intervals last a second at least. -/
def interval (seconds : Nat) : Duration := .ofSeconds (max seconds 1)

def Scheduler.tickInterval (s : Scheduler) : Duration := interval s.tickSeconds

def Scheduler.reconcileInterval (s : Scheduler) : Duration := interval s.reconcileSeconds

def Preempting.policy (p : Preempting) : Preemption.Policy where
  gracePeriod := .ofSeconds p.graceSeconds
  checkpoint := p.checkpoint
  maxVictims := p.maxVictims
  notifyUsers := p.notifyUsers

def Telemetering.schedule (t : Telemetering) : Telemetry.Schedule where
  collectInterval := interval t.collectSeconds
  cleanUpInterval := interval t.cleanUpSeconds
  retention := .ofSeconds t.retentionSeconds

/-! ## Writing -/

def Scheduler.toJson (s : Scheduler) : Json :=
  .obj [("tick_interval_secs", .ofNat s.tickSeconds),
    ("reconcile_interval_secs", .ofNat s.reconcileSeconds)]

def Shares.toJson (m : Shares) : Json := .obj [("units_per_gpu", .ofNat m.unitsPerGpu.toNat)]

def Preempting.toJson (p : Preempting) : Json :=
  .obj [("active_strategy", .str p.activeStrategy), ("grace_period_secs", .ofNat p.graceSeconds),
    ("enable_checkpoint", .bool p.checkpoint), ("max_preemptions", .ofNat p.maxVictims),
    ("notify_users", .bool p.notifyUsers)]

def Telemetering.toJson (t : Telemetering) : Json :=
  .obj [("prometheus_url", .ofOption .str t.serviceAddress),
    ("collect_interval_secs", .ofNat t.collectSeconds),
    ("cleanup_interval_secs", .ofNat t.cleanUpSeconds),
    ("retention_secs", .ofNat t.retentionSeconds), ("job_label_key", .str t.names.jobLabel),
    ("memory_metric", .str t.names.memoryMetric),
    ("utilization_metric", .str t.names.utilizationMetric),
    ("query_timeout_secs", .ofNat t.querySeconds)]

def ClusterAccess.toJson (c : ClusterAccess) : Json :=
  .obj [("enabled", .bool c.enabled), ("kubeconfig", .ofOption .str c.kubeconfig)]

def Logging.toJson (l : Logging) : Json :=
  .obj [("level", .str l.level), ("filter", .ofOption .str l.filter)]

def toJson (s : Settings) : Json :=
  .obj [("scheduler", s.scheduler.toJson), ("mps", s.mps.toJson),
    ("preemption", s.preemption.toJson), ("telemetry", s.telemetry.toJson),
    ("cluster", s.cluster.toJson), ("logging", s.logging.toJson)]

/-! ## Reading -/

/-- How a record of these fields is opened. -/
abbrev Opening := List String → Json → Option Record

/-- A whole number that a 64-bit word holds. -/
def count? (j : Json) : Option Nat := j.u64?.map UInt64.toNat

def Scheduler.read? (opening : Opening) (j : Json) : Option Scheduler := do
  let r ← opening ["tick_interval_secs", "reconcile_interval_secs"] j
  let d : Scheduler := {}
  return {
    tickSeconds := ← r.orDefault "tick_interval_secs" d.tickSeconds count?
    reconcileSeconds := ← r.orDefault "reconcile_interval_secs" d.reconcileSeconds count? }

def Shares.read? (opening : Opening) (j : Json) : Option Shares := do
  let r ← opening ["units_per_gpu"] j
  let d : Shares := {}
  return { unitsPerGpu := ← r.orDefault "units_per_gpu" d.unitsPerGpu Json.u32? }

def Preempting.read? (opening : Opening) (j : Json) : Option Preempting := do
  let r ← opening ["active_strategy", "grace_period_secs", "enable_checkpoint", "max_preemptions",
    "notify_users"] j
  let d : Preempting := {}
  return {
    activeStrategy := ← r.orDefault "active_strategy" d.activeStrategy Json.text?
    graceSeconds := ← r.orDefault "grace_period_secs" d.graceSeconds count?
    checkpoint := ← r.orDefault "enable_checkpoint" d.checkpoint Json.bool?
    maxVictims := ← r.orDefault "max_preemptions" d.maxVictims count?
    notifyUsers := ← r.orDefault "notify_users" d.notifyUsers Json.bool? }

def Telemetering.read? (opening : Opening) (j : Json) : Option Telemetering := do
  let r ← opening ["prometheus_url", "collect_interval_secs", "cleanup_interval_secs",
    "retention_secs", "job_label_key", "memory_metric", "utilization_metric",
    "query_timeout_secs"] j
  let d : Telemetering := {}
  return {
    serviceAddress := ← r.orDefault "prometheus_url" d.serviceAddress (Json.nullOr? Json.text?)
    collectSeconds := ← r.orDefault "collect_interval_secs" d.collectSeconds count?
    cleanUpSeconds := ← r.orDefault "cleanup_interval_secs" d.cleanUpSeconds count?
    retentionSeconds := ← r.orDefault "retention_secs" d.retentionSeconds count?
    names := {
      jobLabel := ← r.orDefault "job_label_key" d.names.jobLabel Json.text?
      memoryMetric := ← r.orDefault "memory_metric" d.names.memoryMetric Json.text?
      utilizationMetric :=
        ← r.orDefault "utilization_metric" d.names.utilizationMetric Json.text? }
    querySeconds := ← r.orDefault "query_timeout_secs" d.querySeconds count? }

def ClusterAccess.read? (opening : Opening) (j : Json) : Option ClusterAccess := do
  let r ← opening ["enabled", "kubeconfig"] j
  let d : ClusterAccess := {}
  return {
    enabled := ← r.orDefault "enabled" d.enabled Json.bool?
    kubeconfig := ← r.orDefault "kubeconfig" d.kubeconfig (Json.nullOr? Json.text?) }

def Logging.read? (opening : Opening) (j : Json) : Option Logging := do
  let r ← opening ["level", "filter"] j
  let d : Logging := {}
  return {
    level := ← r.orDefault "level" d.level Json.text?
    filter := ← r.orDefault "filter" d.filter (Json.nullOr? Json.text?) }

/-- All tables, each with its defaults if it is absent. -/
def read? (opening : Opening) (j : Json) : Option Settings := do
  let r ← opening ["scheduler", "mps", "preemption", "telemetry", "cluster", "logging"] j
  return {
    scheduler := ← r.orDefault "scheduler" {} (Scheduler.read? opening)
    mps := ← r.orDefault "mps" {} (Shares.read? opening)
    preemption := ← r.orDefault "preemption" {} (Preempting.read? opening)
    telemetry := ← r.orDefault "telemetry" {} (Telemetering.read? opening)
    cluster := ← r.orDefault "cluster" {} (ClusterAccess.read? opening)
    logging := ← r.orDefault "logging" {} (Logging.read? opening) }

def fromJson? (j : Json) : Option Settings := read? Record.open? j

/-- A TOML array may be longer than the record; what is left over does not count. -/
def openToml : Opening := fun names j =>
  match j with
  | .arr xs => Record.open? names (.arr (xs.take names.length))
  | j => Record.open? names j

def ofToml? (text : String) : Option Settings :=
  (Toml.parse? text).bind fun document => read? openToml document.toJson

end Settings

/-! ## Files -/

namespace Error

/-- The file could not be read. -/
def settingsUnreadable (reason : String) : Error :=
  .configuration ("Failed to read config file: " ++ reason)

/-- The file holds no settings. -/
def settingsInvalid : Error := .configuration "Failed to parse config"

end Error

inductive FileContent where
  | missing
  | directory
  | bytes (content : List UInt8)
  deriving DecidableEq, Repr

def FileContent.text : FileContent → Except String String
  | missing => .error "No such file or directory (os error 2)"
  | directory => .error "Is a directory (os error 21)"
  | bytes content =>
    match String.fromUTF8? ⟨content.toArray⟩ with
    | some text => .ok text
    | none => .error "stream did not contain valid UTF-8"

def Settings.ofText (text : String) : Except Error Settings :=
  match ofToml? text with
  | some s => .ok s
  | none => .error .settingsInvalid

def Settings.ofFile (file : FileContent) : Except Error Settings :=
  match file.text with
  | .ok text => ofText text
  | .error reason => .error (.settingsUnreadable reason)

end GpuCluster
