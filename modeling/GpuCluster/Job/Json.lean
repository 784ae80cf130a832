import GpuCluster.Job.Basic
import GpuCluster.Text.Json.Record
import GpuCluster.Time.Rfc3339

/-!
# Jobs as JSON

Each type of `Job.Basic` has `toJson`, with all its fields and null for what is missing, and
`fromJson?`, which reads records as `Record` does.
-/

namespace GpuCluster

def JobStatus.toJson (s : JobStatus) : Json := .str s.name

def JobStatus.fromJson? : Json → Option JobStatus := Json.variant? JobStatus.ofName?

def Tier.toJson (t : Tier) : Json := .str t.name

def Tier.fromJson? : Json → Option Tier := Json.variant? Tier.ofName?

namespace PreemptionPolicy

def name : PreemptionPolicy → String
  | preemptLowerPriority => "PreemptLowerPriority"
  | never => "Never"

def ofName? : String → Option PreemptionPolicy
  | "PreemptLowerPriority" => some preemptLowerPriority
  | "Never" => some never
  | _ => none

def toJson (p : PreemptionPolicy) : Json := .str p.name

def fromJson? : Json → Option PreemptionPolicy := Json.variant? ofName?

end PreemptionPolicy

namespace PriorityClass

def toJson (c : PriorityClass) : Json :=
  .obj [("name", .str c.name), ("value", .ofInt c.value.toInt),
    ("preemption_policy", c.policy.toJson), ("description", .str c.description)]

def fromJson? (j : Json) : Option PriorityClass := do
  let r ← Record.open? ["name", "value", "preemption_policy", "description"] j
  return {
    name := ← r.require "name" Json.text?
    value := ← r.require "value" Json.i32?
    policy := ← r.require "preemption_policy" PreemptionPolicy.fromJson?
    description := ← r.require "description" Json.text? }

end PriorityClass

namespace Job

def toJson (j : Job) : Json :=
  .obj [("id", j.id.toJson), ("name", .str j.name), ("project_id", .str j.projectId),
    ("namespace", .str j.namespaceName), ("status", j.status.toJson),
    ("priority_class", .str j.priorityClass), ("priority_value", .ofInt j.priorityValue.toInt),
    ("required_gpu", .ofNat j.requiredGpu.toNat), ("mps_units", .ofNat j.mpsUnits.toNat),
    ("node", .ofOption .str j.node), ("job_type", .str j.jobType),
    ("command", .ofStrings j.command), ("env", .ofBindings j.env),
    ("replicas", .ofNat j.replicas.toNat), ("error_message", .ofOption .str j.errorMessage),
    ("created_at", j.createdAt.toJson), ("started_at", .ofOption Instant.toJson j.startedAt),
    ("completed_at", .ofOption Instant.toJson j.completedAt)]

def fieldNames : List String :=
  ["id", "name", "project_id", "namespace", "status", "priority_class", "priority_value",
    "required_gpu", "mps_units", "node", "job_type", "command", "env", "replicas",
    "error_message", "created_at", "started_at", "completed_at"]

def fromJson? (j : Json) : Option Job := do
  let r ← Record.open? fieldNames j
  return {
    id := ← r.require "id" Json.jobId?
    name := ← r.require "name" Json.text?
    projectId := ← r.require "project_id" Json.text?
    namespaceName := ← r.require "namespace" Json.text?
    status := ← r.require "status" JobStatus.fromJson?
    priorityClass := ← r.require "priority_class" Json.text?
    priorityValue := ← r.require "priority_value" Json.i32?
    requiredGpu := ← r.require "required_gpu" Json.u32?
    mpsUnits := ← r.require "mps_units" Json.u32?
    node := ← r.optional "node" Json.text?
    jobType := ← r.require "job_type" Json.text?
    command := ← r.require "command" (Json.listOf? Json.text?)
    env := ← r.require "env" (Json.mapOf? Json.text?)
    replicas := ← r.require "replicas" Json.u32?
    errorMessage := ← r.optional "error_message" Json.text?
    createdAt := ← r.require "created_at" Json.instant?
    startedAt := ← r.optional "started_at" Json.instant?
    completedAt := ← r.optional "completed_at" Json.instant? }

end Job

namespace Requirement

def toJson (q : Requirement) : Json :=
  .obj [("cpu", .ofFloat q.cpu), ("memory", .ofNat q.memory.toNat), ("gpu", .ofNat q.gpu.toNat),
    ("mps", .ofNat q.mps.toNat), ("priority_value", .ofInt q.priorityValue.toInt),
    ("requested_by", .ofOption JobId.toJson q.requestedBy)]

def fromJson? (j : Json) : Option Requirement := do
  let r ← Record.open? ["cpu", "memory", "gpu", "mps", "priority_value", "requested_by"] j
  return {
    cpu := ← r.require "cpu" Json.float?
    memory := ← r.require "memory" Json.u64?
    gpu := ← r.require "gpu" Json.u32?
    mps := ← r.require "mps" Json.u32?
    priorityValue := ← r.require "priority_value" Json.i32?
    requestedBy := ← r.optional "requested_by" Json.jobId? }

end Requirement

end GpuCluster
