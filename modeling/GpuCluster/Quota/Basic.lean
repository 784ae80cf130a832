import GpuCluster.Arithmetic
import GpuCluster.Mps

/-!
# Quotas of shares

`Quota` is what one project may use and uses of the units of `Mps`.

* `available`, `admits` : what is free and whether a request fits into it;
* `reserve` : take units, refused when they do not fit;
* `release` : give units back, never below zero.
-/

namespace GpuCluster

/-- The units that a project may use and those it uses. -/
structure Quota where
  projectId : String
  total : UInt32
  used : UInt32
  deriving DecidableEq, Repr, Inhabited

namespace Error

/-- The project has no quota at all. -/
def noQuota (project : String) : Error :=
  .quotaExceeded ("project " ++ project ++ " has no MPS quota")

/-- The request is larger than what is free. -/
def quotaShort (project : String) (requested available : UInt32) : Error :=
  .quotaExceeded ("project " ++ project ++ ": requested " ++ toString requested.toNat ++
    " MPS units, available " ++ toString available.toNat)

/-- The new total is smaller than what is in use. -/
def quotaInUse (project : String) (used total : UInt32) : Error :=
  .quotaExceeded ("project " ++ project ++ " uses " ++ toString used.toNat ++
    " MPS units, cannot lower total to " ++ toString total.toNat)

end Error

namespace Quota

/-- A quota of which nothing is used yet. -/
def new (project : String) (total : UInt32) : Quota := ⟨project, total, 0⟩

/-- The units that are free. -/
def available (q : Quota) : UInt32 := Saturating.sub32 q.total q.used

/-- The units fit into what is free. -/
def admits (q : Quota) (units : UInt32) : Bool := Mps.fits units q.available

@[simp] theorem toNat_available (q : Quota) : q.available.toNat = q.total.toNat - q.used.toNat := by
  simp [available]

def reserve (q : Quota) (units : UInt32) : Except Failure Quota :=
  if q.admits units then
    match Checked.add32 q.used units with
    | .ok used => .ok { q with used := used }
    | .error f => .error (.fault f)
  else .error (.error (.quotaShort q.projectId units q.available))

def release (q : Quota) (units : UInt32) : Quota :=
  { q with used := Saturating.sub32 q.used units }

/-- How much of the total is used, in percent; nothing of an empty quota. -/
def usagePercent (q : Quota) : Float :=
  if q.total = 0 then 0 else q.used.toNat.toFloat / q.total.toNat.toFloat * 100

def toJson (q : Quota) : Json :=
  .obj [("project_id", .str q.projectId), ("total_mps_units", .ofNat q.total.toNat),
    ("used_mps_units", .ofNat q.used.toNat)]

def fromJson? (j : Json) : Option Quota := do
  let r ← Record.open? ["project_id", "total_mps_units", "used_mps_units"] j
  return {
    projectId := ← r.require "project_id" Json.text?
    total := ← r.require "total_mps_units" Json.u32?
    used := ← r.require "used_mps_units" Json.u32? }

end Quota

end GpuCluster
