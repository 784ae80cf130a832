import GpuCluster.Action
import GpuCluster.Arithmetic
import GpuCluster.Text.Blank
import GpuCluster.Text.Json.Record

/-!
# Pods

* `Pod` : what the accounting of GPU use knows about a pod;
* `Pod.Manifest` : the parts of a pod's description that this comes from, `Manifest.read?` and
  `Manifest.pod`;
* `Cluster σ` : what lists pods.
-/

namespace GpuCluster

inductive Pod.Phase where
  | pending
  | running
  | succeeded
  | failed
  | unknown
  deriving DecidableEq, Repr, Inhabited

namespace Pod.Phase

def name : Phase → String
  | pending => "Pending"
  | running => "Running"
  | succeeded => "Succeeded"
  | failed => "Failed"
  | unknown => "Unknown"

/-- The phase of a name; any other name is the unknown phase. -/
def ofName : String → Phase
  | "Pending" => pending
  | "Running" => running
  | "Succeeded" => succeeded
  | "Failed" => failed
  | _ => unknown

/-- A pod of this phase never runs again. -/
def isTerminal : Phase → Bool
  | succeeded | failed => true
  | _ => false

end Pod.Phase

structure Pod where
  name : String
  namespaceName : String
  phase : Pod.Phase
  /-- Empty until the pod has a node. -/
  nodeName : String
  /-- The whole GPUs that its containers ask for together. -/
  gpuRequest : UInt32
  deriving DecidableEq, Repr, Inhabited

namespace Pod

def toJson (p : Pod) : Json :=
  .obj [("name", .str p.name), ("namespace", .str p.namespaceName), ("phase", .str p.phase.name),
    ("node_name", .str p.nodeName), ("gpu_request", .ofNat p.gpuRequest.toNat)]

/-- The resource that stands for whole GPUs. -/
def gpuResource : String := "nvidia.com/gpu"

/-- The parts of a pod's description that matter. -/
structure Manifest where
  name : String
  namespaceName : String
  phase : Phase
  nodeName : String
  /-- What each container that asks for GPUs asks for, as written. -/
  gpuRequests : List String
  deriving DecidableEq, Repr

namespace Manifest

/-- An object with this member, or no object. -/
def object? : Json → Option Json
  | .obj ms => some (.obj ms)
  | .null => some .null
  | _ => none

/-- A part that is an object, null or absent. -/
def part? (j : Json) (name : String) : Option Json := object? (j.memberOrNull name)

/-- A text that is null or absent counts as empty. -/
def textOrEmpty? (j : Json) (name : String) : Option String :=
  ((j.memberOrNull name).nullOr? Json.text?).map (·.getD "")

/-- A text that must be this one, if it is there. -/
def checkText (j : Json) (name expected : String) : Option Unit :=
  match j.member? name with
  | none => some ()
  | some t => if t.text? = some expected then some () else none

def request? (container : Json) : Option (Option String) := do
  let .obj _ := container | none
  let _ ← textOrEmpty? container "name"
  let resources ← part? container "resources"
  let requests ← (resources.memberOrNull "requests").nullOr? (Json.mapOf? Json.text?)
  return requests.bind (·.get? gpuResource)

/-- The containers of a pod; none when they are null or absent. -/
def requests? (spec : Json) : Option (List String) := do
  let containers ← (spec.memberOrNull "containers").nullOr? (Json.listOf? request?)
  return (containers.getD []).filterMap id

/-- Read the description of a pod. Parts that are null or absent count as empty; parts of another
kind are refused. -/
def read? (j : Json) : Option Manifest := do
  let .obj _ := j | none
  checkText j "apiVersion" "v1"
  checkText j "kind" "Pod"
  let metadata ← part? j "metadata"
  let spec ← part? j "spec"
  let status ← part? j "status"
  let phase ← (status.memberOrNull "phase").nullOr? Json.text?
  return {
    name := ← textOrEmpty? metadata "name"
    namespaceName := ← textOrEmpty? metadata "namespace"
    phase := (phase.map Phase.ofName).getD .unknown
    nodeName := ← textOrEmpty? spec "nodeName"
    gpuRequests := ← requests? spec }

/-- The sum of requests; one that is no number is passed over. -/
def gpuTotal (requests : List String) : Except Fault UInt32 :=
  (requests.filterMap fun r => Decimal.parseU32 (Blank.trim r)).foldlM Checked.add32 0

def pod (m : Manifest) : Except Fault Pod := do
  let gpus ← gpuTotal m.gpuRequests
  .ok ⟨m.name, m.namespaceName, m.phase, m.nodeName, gpus⟩

end Manifest

end Pod

/-- Lists the pods of a namespace that a label selector picks. -/
abbrev Cluster (σ : Type) := String → String → Action σ (List Pod)

end GpuCluster
