import GpuCluster.Action
import GpuCluster.Text.Bindings
import GpuCluster.Time.Instant

/-!
# Metric samples

* `Metrics.Sample` : one series at one time, told apart by its labels;
* `Metrics.podQuery` : the query for the series of one pod;
* `Metrics.Backend σ` : what answers queries;
* `Metrics.Service` : a service by its address, without a way to reach it.
-/

namespace GpuCluster

namespace Error

/-- No request for a query could be made. -/
def queryFailed (expression : String) : Error := .metrics ("query " ++ expression ++ " failed")

end Error

namespace Metrics

/-- The value of one series at one time. -/
structure Sample where
  labels : Bindings String := ∅
  value : Float := 0
  deriving Inhabited

/-- The value of a label; an empty one counts as missing. -/
def Sample.label? (s : Sample) (name : String) : Option String :=
  (s.labels.get? name).filter (· ≠ "")

/-- The query for the series of a metric that belong to one pod. -/
def podQuery (metric podNamespace pod : String) : String :=
  metric ++ "\x7bpod_namespace=\"" ++ podNamespace ++ "\",pod_name=\"" ++ pod ++ "\"\x7d"

/-- Answers queries for samples at a time. -/
abbrev Backend (σ : Type) := String → Instant → Action σ (List Sample)

structure Service where
  address : String
  deriving DecidableEq, Repr

namespace Service

/-- The service at an address; slashes at the end do not count. -/
def ofAddress (address : String) : Service :=
  ⟨String.ofList (address.toList.reverse.dropWhile (· = '/')).reverse⟩

def queryAddress (s : Service) : String := s.address ++ "/api/v1/query"

/-- The backend of a service that no request reaches. -/
def unreachable {σ : Type} (_ : Service) : Backend σ := fun expression _ =>
  Action.fail (.queryFailed expression)

end Service

end Metrics

end GpuCluster
