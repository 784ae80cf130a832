import Mathlib.Algebra.GroupWithZero.Nat
import GpuCluster.Cluster.Listing

/-!
# What pods ask for

* `Checked.sum32_eq` : a sum of 32-bit quantities is formed exactly if it is one;
* `Manifest.gpusAsked` : the GPUs that a pod asks for, in unbounded arithmetic; `Manifest.pod_eq`,
  `Manifest.mapM_pod` : pods are read exactly if these numbers fit their word.
-/

namespace GpuCluster

namespace Checked

/-- A sum of 32-bit quantities is formed exactly if it is one. -/
theorem sum32_eq (xs : List UInt32) (x : UInt32) : xs.foldlM add32 x =
    if x.toNat + (xs.map UInt32.toNat).sum < UInt32.size then
      .ok (.ofNat (x.toNat + (xs.map UInt32.toNat).sum))
    else .error (.overflow .add) := by
  induction xs generalizing x with
  | nil =>
    rw [List.map_nil, List.sum_nil, Nat.add_zero, if_pos x.toNat_lt, UInt32.ofNat_toNat]
    rfl
  | cons y rest ih =>
    rw [List.foldlM_cons, List.map_cons, List.sum_cons, ← Nat.add_assoc]
    by_cases h : x.toNat + y.toNat < UInt32.size
    · have hsum : add32 x y = .ok (x + y) := if_pos h
      have hvalue := add32_eq_ok_iff.1 hsum
      rw [hsum, ← hvalue]
      exact ih (x + y)
    · have hsum : add32 x y = .error (.overflow .add) := if_neg h
      rw [hsum, if_neg (by omega)]
      rfl

end Checked

namespace Pod.Manifest

variable (m : Manifest)

/-- The GPUs that the containers of a pod ask for together, in unbounded arithmetic. What is no
number does not count. -/
def gpusAsked : Nat :=
  ((m.gpuRequests.filterMap fun r => Decimal.parseU32 (Blank.trim r)).map UInt32.toNat).sum

/-- The pod of a description, if the GPUs that it asks for fit their word. -/
def described : Pod := ⟨m.name, m.namespaceName, m.phase, m.nodeName, .ofNat m.gpusAsked⟩

theorem pod_eq : m.pod =
    if m.gpusAsked < UInt32.size then .ok m.described else .error (.overflow .add) := by
  have hzero : (0 : UInt32).toNat = 0 := rfl
  rw [pod, gpuTotal, Checked.sum32_eq, hzero, Nat.zero_add, ← gpusAsked]
  split
  · rfl
  · rfl

/-- What each pod of a list asks for fits its word. -/
def AllFit (ms : List Manifest) : Prop := ∀ m ∈ ms, m.gpusAsked < UInt32.size

instance (ms : List Manifest) : Decidable (AllFit ms) :=
  inferInstanceAs (Decidable (∀ m ∈ ms, m.gpusAsked < UInt32.size))

variable {m} {ms : List Manifest}

theorem allFit_cons : AllFit (m :: ms) ↔ m.gpusAsked < UInt32.size ∧ AllFit ms :=
  List.forall_mem_cons

/-- The pods of a list are read exactly if what each of them asks for fits. -/
theorem mapM_pod (ms : List Manifest) : ms.mapM pod =
    if AllFit ms then .ok (ms.map described) else .error (.overflow .add) := by
  induction ms with
  | nil => rfl
  | cons m rest ih =>
    rw [List.mapM_cons, pod_eq, ih]
    by_cases hm : m.gpusAsked < UInt32.size
    · by_cases hrest : AllFit rest
      · rw [if_pos hm, if_pos hrest, if_pos (allFit_cons.2 ⟨hm, hrest⟩)]
        rfl
      · rw [if_pos hm, if_neg hrest, if_neg fun h => hrest (allFit_cons.1 h).2]
        rfl
    · rw [if_neg hm, if_neg fun h => hm (allFit_cons.1 h).1]
      rfl

end Pod.Manifest

end GpuCluster
